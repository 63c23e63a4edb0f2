import Relabel.Text.Numeral

/-!
# Number systems

The systems in which an index is written. Roman numerals are formed from the greatest weight down,
each symbol as often as its weight still goes into the number.
-/

namespace Relabel

inductive NumberSystem
  | decimal
  | binary
  | octal
  | hexadecimal
  | roman
deriving DecidableEq, Repr

namespace NumberSystem

def all : List NumberSystem := [decimal, binary, octal, hexadecimal, roman]

def label : NumberSystem → Text
  | decimal => []
  | binary => ['b']
  | octal => ['o']
  | hexadecimal => ['h']
  | roman => ['r']

def ofLabel? (label : Text) : Option NumberSystem := all.find? (·.label = label)

theorem ofLabel?_label (s : NumberSystem) : ofLabel? s.label = some s := by cases s <;> rfl

/-- The base of the digits; where Roman numerals have none, digits are decimal. -/
def base : NumberSystem → Nat
  | binary => 2
  | octal => 8
  | hexadecimal => 16
  | _ => 10

end NumberSystem

namespace Roman

def weights : List (Nat × Text) := [
  (1000, ['M']), (900, ['C', 'M']), (500, ['D']), (400, ['C', 'D']), (100, ['C']),
  (90, ['X', 'C']), (50, ['L']), (40, ['X', 'L']), (10, ['X']), (9, ['I', 'X']), (5, ['V']),
  (4, ['I', 'V']), (1, ['I'])]

def numeralBy (n : Nat) : List (Nat × Text) → Text
  | [] => []
  | (weight, symbol) :: rest =>
    (List.replicate (n / weight) symbol).flatten ++ numeralBy (n % weight) rest

def numeral (n : Nat) : Text := numeralBy n weights

end Roman

namespace NumberSystem

/-- Digits with a sign in front of the padding. Positive Roman numerals are not padded. -/
def render (system : NumberSystem) (width : Nat) (value : Int) : Text :=
  if system = roman ∧ 0 < value then Roman.numeral value.natAbs
  else
    (if value < 0 then ['-'] else []) ++
      Text.zeroPadded width (Nat.toDigits system.base value.natAbs)

end NumberSystem

end Relabel
