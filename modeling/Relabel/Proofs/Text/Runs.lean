import Mathlib.Algebra.Group.Nat.Defs
import Mathlib.Data.List.TakeWhile
import Relabel.Text.Blank
import Relabel.Text.DecimalDigit
import Relabel.Text.Numeral

/-!
# Runs of characters

A reader that takes characters of one class stops at the first one outside of it. Digits are never
white space, so a text that begins and ends with digits has nothing to trim, and zeros in front of a
number do not change what it denotes.
-/

namespace Relabel

open Text

theorem isBlank_eq_false_of_isDecimalDigit (h : isDecimalDigit c = true) : isBlank c = false := by
  have hapart : ∀ r ∈ decimalDigitRanges, ∀ s ∈ blankRanges, r.2 < s.1 ∨ s.2 < r.1 := by decide
  obtain ⟨r, hr, hfirst, hlast⟩ := inRanges_iff.mp h
  refine Bool.eq_false_iff.mpr fun hblank => ?_
  obtain ⟨s, hs, hfirst', hlast'⟩ := inRanges_iff.mp hblank
  have := hapart r hr s hs
  omega

theorem isBlank_eq_false_of_isDigit {c : Char} (h : c.isDigit) : isBlank c = false :=
  isBlank_eq_false_of_isDecimalDigit (isDecimalDigit_of_isDigit h)

theorem digitChar_of_isDigit (h : Char.isDigit c = true) :
    (c.toNat - '0'.toNat).digitChar = c ∧ c.toNat - '0'.toNat < 10 := by
  have hrange : 48 ≤ c.toNat ∧ c.toNat ≤ 57 := Char.isDigit_iff_toNat.mp h
  have hlt : c.toNat - '0'.toNat < 10 := by
    show c.toNat - 48 < 10
    omega
  refine ⟨Char.toNat_inj.mp ?_, hlt⟩
  rw [Nat.toNat_digitChar_of_lt_ten hlt]
  show 48 + (c.toNat - 48) = c.toNat
  omega

def Stops (p : Char → Bool) (rest : Text) : Prop := ∀ c ∈ rest.head?, p c = false

theorem stops_cons {p : Char → Bool} (hc : p c = false) (rest : Text) : Stops p (c :: rest) := by
  simpa [Stops] using hc

theorem takeWhile_append_of_stops {p : Char → Bool} {run rest : Text}
    (hrun : run.all p = true) (hrest : Stops p rest) : (run ++ rest).takeWhile p = run := by
  rw [List.takeWhile_append_of_pos (List.all_eq_true.mp hrun)]
  cases rest with
  | nil => simp
  | cons c cs => simp [hrest c rfl]

theorem dropWhile_append_of_stops {p : Char → Bool} {run rest : Text}
    (hrun : run.all p = true) (hrest : Stops p rest) : (run ++ rest).dropWhile p = rest := by
  rw [List.dropWhile_append_of_pos (List.all_eq_true.mp hrun)]
  cases rest with
  | nil => simp
  | cons c cs => simp [hrest c rfl]

theorem takeWhile_of_stops {p : Char → Bool} {rest : Text} (h : Stops p rest) :
    rest.takeWhile p = [] :=
  takeWhile_append_of_stops (show ([] : Text).all p = true from rfl) h

theorem dropWhile_of_stops {p : Char → Bool} {rest : Text} (h : Stops p rest) :
    rest.dropWhile p = rest :=
  dropWhile_append_of_stops (show ([] : Text).all p = true from rfl) h

theorem eq_append_of_dropWhile {p : Char → Bool} {text rest : Text}
    (h : text.dropWhile p = rest) : text = text.takeWhile p ++ rest := by
  rw [← h, List.takeWhile_append_dropWhile]

theorem trim_of_stops (hfront : Stops isBlank text) (hback : Stops isBlank text.reverse) :
    trim text = text := by
  rw [trim, trimStart, dropWhile_of_stops hfront, trimEnd, dropWhile_of_stops hback,
    List.reverse_reverse]

-- ---------------------------------------------------------------------------
-- Runs of digits
-- ---------------------------------------------------------------------------

theorem Text.number?_eq_some_iff {text : Text} : text.number? = some n ↔
    (text ≠ [] ∧ ∀ c ∈ text, c.isDigit) ∧ Nat.ofDigitChars 10 text 0 = n := by
  simp [number?]

theorem Text.number?_zeroPadded_decimal (width n : Nat) :
    (zeroPadded width (decimal n)).number? = some n := by
  obtain ⟨⟨hne, hdigits⟩, hvalue⟩ := number?_eq_some_iff.mp (number?_decimal n)
  refine number?_eq_some_iff.mpr ⟨⟨by simp [zeroPadded, hne], ?_⟩, ?_⟩
  · intro c hc
    rcases List.mem_append.mp hc with hzero | hc
    · rw [List.eq_of_mem_replicate hzero]
      rfl
    · exact hdigits c hc
  · rw [zeroPadded, Nat.ofDigitChars_append, Nat.ofDigitChars_replicate_zero, Nat.mul_zero, hvalue]

theorem ofDigitChars_cons_zero (c : Char) (cs : Text) : Nat.ofDigitChars 10 (c :: cs) 0 =
    10 ^ cs.length * (c.toNat - '0'.toNat) + Nat.ofDigitChars 10 cs 0 := by
  rw [Nat.ofDigitChars_cons, Nat.mul_zero, Nat.zero_add, Nat.ofDigitChars_eq_ofDigitChars_zero]

theorem ofDigitChars_lt {digits : Text} (h : ∀ c ∈ digits, c.isDigit) :
    Nat.ofDigitChars 10 digits 0 < 10 ^ digits.length := by
  induction digits with
  | nil => simp
  | cons c cs ih =>
    obtain ⟨hc, hcs⟩ := List.forall_mem_cons.mp h
    have hlt := (digitChar_of_isDigit hc).2
    have hrest := ih hcs
    calc Nat.ofDigitChars 10 (c :: cs) 0
        = 10 ^ cs.length * (c.toNat - '0'.toNat) + Nat.ofDigitChars 10 cs 0 :=
          ofDigitChars_cons_zero c cs
      _ < 10 ^ cs.length * (c.toNat - '0'.toNat + 1) := by rw [Nat.mul_succ]; omega
      _ ≤ 10 ^ cs.length * 10 := Nat.mul_le_mul_left _ hlt
      _ = 10 ^ (c :: cs).length := rfl

end Relabel
