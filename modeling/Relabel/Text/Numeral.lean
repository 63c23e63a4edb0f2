import Relabel.Text.Basic

/-!
# Numbers in texts

Decimal numbers are read from ASCII digits alone and may have a bound; numbers are written in any
base with lower-case digits and padded with zeros on the left.
-/

namespace Relabel.Text

def number? (text : Text) : Option Nat :=
  if text ≠ [] ∧ text.all Char.isDigit then some (Nat.ofDigitChars 10 text 0) else none

def numberUpTo? (largest : Nat) (text : Text) : Option Nat :=
  text.number?.filter (· ≤ largest)

def signedNumberUpTo? (largest : Nat) : Text → Option Nat
  | '+' :: digits => numberUpTo? largest digits
  | digits => numberUpTo? largest digits

def hexDigit? (c : Char) : Option Nat :=
  if c.isDigit then some (c.toNat - '0'.toNat)
  else if 'a' ≤ c ∧ c ≤ 'f' then some (c.toNat - 'a'.toNat + 10)
  else if 'A' ≤ c ∧ c ≤ 'F' then some (c.toNat - 'A'.toNat + 10)
  else none

def hexNumber? (digits : Text) : Option Nat :=
  if digits = [] then none
  else (digits.mapM hexDigit?).map (·.foldl (fun n d => 16 * n + d) 0)

def hexChar? (digits : Text) : Option Char :=
  (hexNumber? digits).bind fun code =>
    if Nat.isValidChar code then some (Char.ofNat code) else none

def decimal (n : Nat) : Text := Nat.toDigits 10 n

def integer : Int → Text
  | .ofNat n => decimal n
  | .negSucc n => '-' :: decimal (n + 1)

/-- Zeros in front up to the width. -/
def zeroPadded (width : Nat) (digits : Text) : Text :=
  List.replicate (width - digits.length) '0' ++ digits

theorem length_zeroPadded (width : Nat) (digits : Text) :
    (zeroPadded width digits).length = max width digits.length := by
  simp [zeroPadded]; omega

theorem all_isDigit_decimal (n : Nat) : (decimal n).all Char.isDigit = true := by
  rw [List.all_eq_true]
  exact fun c hc => Nat.isDigit_of_mem_toDigits (by decide) (by decide) hc

theorem number?_decimal (n : Nat) : (decimal n).number? = some n := by
  rw [number?, if_pos ⟨Nat.toDigits_ne_nil, all_isDigit_decimal n⟩, decimal,
    Nat.ofDigitChars_ten_toDigits]

/-- The last digit of a numeral is the remainder, and the quotient has the digits in front of it. -/
theorem toDigits_induction {motive : Nat → Text → Prop} (hbase : 1 < base)
    (digit : ∀ n < base, motive n [n.digitChar])
    (concat : ∀ n, base ≤ n → motive (n / base) (Nat.toDigits base (n / base)) →
      motive n (Nat.toDigits base (n / base) ++ [(n % base).digitChar])) (n : Nat) :
    motive n (Nat.toDigits base n) := by
  induction n using Nat.strongRecOn with
  | ind n ih =>
    rw [Nat.toDigits_eq_if hbase]
    split
    case isTrue hlt => exact digit n hlt
    case isFalse hle =>
      have hfront := ih (n / base) (Nat.div_lt_self (by omega) hbase)
      exact concat n (Nat.not_lt.mp hle) hfront

end Relabel.Text
