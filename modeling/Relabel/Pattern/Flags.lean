import Relabel.Pattern.CharClass

/-!
# Flags

What the flags of a find pattern make of a class of characters. Without Unicode a class knows ASCII
only, and what could take a part of a character is an error.
-/

namespace Relabel

inductive PatternError
  | unclosedGroup
  | unopenedGroup
  | badGroupName
  | repeatedGroupName
  | badFlags
  | lookAround
  | backreference
  | badEscape
  | badCodePoint
  | unknownProperty
  | beyondAscii
  | nothingToRepeat
  | badRepetition
  | unclosedClass
  | badClass
  | tooLarge
deriving DecidableEq, Repr

structure PatternFlags where
  ignoreCase : Bool
  multiLine : Bool
  dotNewline : Bool
  lazyFirst : Bool
  extended : Bool
  /-- A carriage return ends a line too. -/
  crlf : Bool
  unicode : Bool
deriving DecidableEq, Repr

namespace PatternFlags

variable (flags : PatternFlags)

def start (ignoreCase : Bool) : PatternFlags :=
  ⟨ignoreCase, false, false, false, false, false, true⟩

def knows (c : Char) : Bool := flags.unicode || c.toNat < 0x80

def restrict (a : CharClass) : CharClass :=
  if flags.unicode then a else .inter a (.property .ascii)

def fold (a : CharClass) : CharClass := flags.restrict (a.folding flags.ignoreCase)

def char (c : Char) : CharClass := if flags.knows c then flags.fold (.single c) else .single c

theorem char_start (ignoreCase : Bool) (c : Char) :
    (start ignoreCase).char c = (CharClass.single c).folding ignoreCase := rfl

def negate (negated : Bool) (a : CharClass) : Except PatternError CharClass :=
  if negated && !flags.unicode then .error .beyondAscii else .ok (a.negating negated)

def dot : Except PatternError CharClass :=
  if !flags.unicode then .error .beyondAscii
  else if flags.dotNewline then .ok .any
  else if flags.crlf then .ok (.complement (.union (.single '\r') (.single '\n')))
  else .ok (.complement (.single '\n'))

end PatternFlags

end Relabel
