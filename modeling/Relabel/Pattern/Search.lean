import Relabel.Pattern.Reader

/-!
# Find arguments

A find argument is a pattern, or plain text in literal mode. An empty one matches the whole name.
-/

namespace Relabel

structure FindMode where
  ignoreCase : Bool
  literal : Bool
deriving DecidableEq, Repr

def Pattern.compile (mode : FindMode) (find : Text) : Except PatternError Pattern :=
  if find = [] then .ok Pattern.wholeText
  else if mode.literal then .ok (Pattern.literal mode.ignoreCase find)
  else Pattern.read mode.ignoreCase find

end Relabel
