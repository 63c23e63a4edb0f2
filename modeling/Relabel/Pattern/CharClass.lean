import Relabel.Text.Blank
import Relabel.Text.CaseVariant
import Relabel.Text.DecimalDigit
import Relabel.Text.Letter
import Relabel.Text.WordCharacter

/-!
# Classes of characters

A class is built from ranges and named properties by the set operations and by closing it under
case variants. It is used only through the characters that it accepts.
-/

namespace Relabel

inductive CharProperty
  | any
  | ascii
  | decimalDigit
  | blank
  | word
  | uppercaseLetter
  | lowercaseLetter
  | control
  /-- Given by a table of code points. -/
  | among (ranges : List (Nat × Nat))
deriving DecidableEq, Repr

def isControl (c : Char) : Bool := c.toNat < 0x20 || (0x7f ≤ c.toNat && c.toNat ≤ 0x9f)

def CharProperty.holds : CharProperty → Char → Bool
  | any, _ => true
  | ascii, c => c.toNat < 0x80
  | decimalDigit, c => isDecimalDigit c
  | blank, c => isBlank c
  | word, c => isWordCharacter c
  | uppercaseLetter, c => isUppercaseLetter c
  | lowercaseLetter, c => isLowercaseLetter c
  | control, c => isControl c
  | among ranges, c => inRanges ranges c

inductive CharClass
  | range (first last : Char)
  | property (p : CharProperty)
  | union (a b : CharClass)
  | inter (a b : CharClass)
  | complement (a : CharClass)
  | folded (a : CharClass)
deriving Repr

namespace CharClass

def accepts : CharClass → Char → Bool
  | range first last, c => first ≤ c && c ≤ last
  | property p, c => p.holds c
  | union a b, c => a.accepts c || b.accepts c
  | inter a b, c => a.accepts c && b.accepts c
  | complement a, c => !a.accepts c
  | folded a, c => (caseVariants c).any a.accepts

def single (c : Char) : CharClass := range c c

def any : CharClass := property .any

def empty : CharClass := complement any

def ofRanges (ranges : List (Char × Char)) : CharClass :=
  ranges.foldr (fun r rest => union (range r.1 r.2) rest) empty

def unionAll (classes : List CharClass) : CharClass := classes.foldr union empty

def difference (a b : CharClass) : CharClass := inter a (complement b)

def symmetricDifference (a b : CharClass) : CharClass :=
  union (difference a b) (difference b a)

def folding (ignoreCase : Bool) (a : CharClass) : CharClass := if ignoreCase then folded a else a

def negating (negated : Bool) (a : CharClass) : CharClass := if negated then complement a else a

theorem accepts_any (c : Char) : any.accepts c = true := rfl

theorem accepts_empty (c : Char) : empty.accepts c = false := rfl

theorem accepts_single (a c : Char) : (single a).accepts c = true ↔ a = c := by
  simp only [single, accepts, Bool.and_eq_true, decide_eq_true_eq]
  exact ⟨fun h => Char.le_antisymm h.1 h.2, fun h => by simp [h]⟩

end CharClass

end Relabel
