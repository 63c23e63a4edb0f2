import Relabel.Number.Floating
import Relabel.Text.Numeral

/-!
# Floating-point numbers in texts

A number is written with the fewest digits from which it can be read back, or with a given number
of digits behind the point.
-/

namespace Relabel

/-- Digits that stand for a whole number, and the power of ten that it is multiplied by. -/
structure Decimal where
  digits : Nat
  exponent : Int
deriving DecidableEq, Repr

inductive Tie
  /-- The greater one. -/
  | up
  /-- The one whose last digit is even. -/
  | even
deriving DecidableEq, Repr

def Tie.keeps : Tie → Nat → Bool
  | up, _ => false
  | even, digits => digits % 2 == 0

namespace Decimal

def value (d : Decimal) : Rat := d.digits * power 10 d.exponent

def positional (d : Decimal) : Text :=
  if 0 ≤ d.exponent then Text.decimal d.digits ++ List.replicate d.exponent.toNat '0'
  else
    let behind := (-d.exponent).toNat
    let digits := Text.zeroPadded (behind + 1) (Text.decimal d.digits)
    digits.take (digits.length - behind) ++ '.' :: digits.drop (digits.length - behind)

def firstExponent (x : Rat) : Int :=
  let guess : Int :=
    (Text.decimal x.num.toNat).length - ((Text.decimal x.den).length : Int)
  if power 10 guess ≤ x then guess else guess - 1

/-- The number as a decimal whose last digit has the exponent, if that rounds to it again; of two
such decimals the nearer one. -/
def nearest? (f : FloatFormat) (tie : Tie) (x : Rat) (exponent : Int) : Option Decimal :=
  let below : Decimal := ⟨(x / power 10 exponent).floor.toNat, exponent⟩
  let above : Decimal := ⟨below.digits + 1, exponent⟩
  let fits (d : Decimal) : Bool := f.round? d.value == some x
  let down := x - below.value
  let up := above.value - x
  if fits below ∧ (fits above → down < up ∨ (down = up ∧ tie.keeps below.digits)) then some below
  else if fits above then some above
  else none

def shortestFrom (f : FloatFormat) (tie : Tie) (x : Rat) (exponent : Int) : Nat → Decimal
  -- Tries one digit more at a time.
  | 0 => ⟨roundHalfEven (x / power 10 exponent), exponent⟩
  | tries + 1 =>
    match nearest? f tie x exponent with
    | some d => d
    | none => shortestFrom f tie x (exponent - 1) tries

/-- The decimal with the fewest digits that rounds to a positive number. The first try is the next
power of ten, which may round down to the number; seventeen digits are always enough. -/
def shortest (f : FloatFormat) (tie : Tie) (x : Rat) : Decimal :=
  if x = 0 then ⟨0, 0⟩ else shortestFrom f tie x (firstExponent x + 1) 18

end Decimal

namespace Floating

def withSign (negative : Bool) (text : Text) : Text := if negative then '-' :: text else text

def text (f : FloatFormat) : Floating → Text
  | finite negative magnitude => withSign negative (Decimal.shortest f .up magnitude).positional
  | infinite negative => withSign negative "inf".toList
  | nan => "NaN".toList

def fixedText (places : Nat) : Floating → Text
  | finite negative magnitude =>
    withSign negative
      (Decimal.mk (roundHalfEven (magnitude * power 10 places)) (-places)).positional
  | infinite negative => withSign negative "inf".toList
  | nan => "NaN".toList

end Floating

end Relabel
