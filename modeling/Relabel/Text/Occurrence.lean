import Relabel.Text.Basic

/-!
# Replacing a piece of text

The occurrences of a piece are taken from the left and do not overlap; what is inserted is not
searched again.
-/

namespace Relabel.Text

def replaceFrom (piece value : Text) (skip : Nat) : Text → Text
  -- Walks along a text of which `skip` more characters belong to an occurrence already replaced.
  | [] => []
  | c :: cs =>
    match skip with
    | skip + 1 => replaceFrom piece value skip cs
    | 0 =>
      if piece.isPrefixOf (c :: cs) then value ++ replaceFrom piece value (piece.length - 1) cs
      else c :: replaceFrom piece value 0 cs

/-- Every occurrence of a non-empty `piece` replaced by `value`. -/
def replaceAll (piece value text : Text) : Text :=
  if piece.isEmpty then text else replaceFrom piece value 0 text

end Relabel.Text
