import Mathlib.Algebra.Group.Nat.Defs
import Mathlib.Data.List.Induction
import Relabel.Numbering.Index
import Relabel.Proofs.Numbering.Roman

/-!
# Reading numbers back

A number that an index shows is read again in the number system of the index. Outside of Roman
numerals it is the shortest run of digits that denotes the number, with zeros in front up to the
width and the sign in front of all. What is read again tells the number, so that no two numbers are
shown alike (`render_reads_back`).
-/

namespace Relabel

namespace NumberSystem

/-- The digits of the system, each at the place that tells what it stands for. -/
def digits : NumberSystem → Text
  | binary => "01".toList
  | octal => "01234567".toList
  | hexadecimal => "0123456789abcdef".toList
  | decimal | roman => "0123456789".toList

def IsNumber (system : NumberSystem) (text : Text) : Prop :=
  text ≠ [] ∧ text.all system.digits.contains = true

instance (system : NumberSystem) (text : Text) : Decidable (system.IsNumber text) :=
  inferInstanceAs (Decidable (_ ∧ _))

def number (system : NumberSystem) (text : Text) : Nat :=
  text.foldl (fun n c => system.digits.length * n + system.digits.idxOf c) 0

def signed? (system : NumberSystem) : Text → Option Int
  | '-' :: text => if system.IsNumber text then some (-(system.number text : Int)) else none
  | text => if system.IsNumber text then some (system.number text) else none

def read? (system : NumberSystem) (text : Text) : Option Int :=
  if system = roman ∧ text ≠ [] ∧ text.all Roman.isSymbol = true then some (Roman.value text)
  else system.signed? text

variable (system : NumberSystem)

-- ---------------------------------------------------------------------------
-- Digits
-- ---------------------------------------------------------------------------

theorem one_lt_base : 1 < system.base := by cases system <;> decide

theorem digitChar_mem : ∀ d < system.base, d.digitChar ∈ system.digits := by
  cases system <;> decide

theorem idxOf_digitChar : ∀ d < system.base, system.digits.idxOf d.digitChar = d := by
  cases system <;> decide

theorem length_digits : system.digits.length = system.base := by cases system <;> rfl

private theorem number_concat (text : Text) (c : Char) :
    system.number (text ++ [c]) = system.base * system.number text + system.digits.idxOf c := by
  simp [number, length_digits]

theorem mod_base_lt (n : Nat) : n % system.base < system.base :=
  Nat.mod_lt n (Nat.lt_of_succ_lt system.one_lt_base)

theorem number_toDigits (n : Nat) : system.number (Nat.toDigits system.base n) = n := by
  refine Text.toDigits_induction (motive := fun n text => system.number text = n)
    system.one_lt_base ?_ ?_ n
  · intro n hlt
    simp [number, system.idxOf_digitChar n hlt]
  · intro n _ hfront
    rw [number_concat, hfront, system.idxOf_digitChar _ (system.mod_base_lt n)]
    exact Nat.div_add_mod n system.base

theorem all_toDigits (n : Nat) :
    (Nat.toDigits system.base n).all system.digits.contains = true := by
  refine Text.toDigits_induction (motive := fun _ text => text.all system.digits.contains = true)
    system.one_lt_base ?_ ?_ n
  · intro n hlt
    simpa using system.digitChar_mem n hlt
  · intro n _ hfront
    have hlast := system.digitChar_mem _ (system.mod_base_lt n)
    rw [List.all_append, hfront]
    simpa using hlast

theorem isNumber_toDigits (n : Nat) : system.IsNumber (Nat.toDigits system.base n) :=
  ⟨Nat.toDigits_ne_nil, system.all_toDigits n⟩

theorem number_lt {text : Text} (h : text.all system.digits.contains = true) :
    system.number text < system.base ^ text.length := by
  induction text using List.reverseRecOn with
  | nil => simp [number]
  | append_singleton text c ih =>
    obtain ⟨htext, hc⟩ : text.all system.digits.contains = true ∧ c ∈ system.digits := by
      simpa using h
    have hlt : system.digits.idxOf c < system.base := by
      rw [← system.length_digits]
      exact List.idxOf_lt_length_of_mem hc
    have hle : system.base * (system.number text + 1) ≤ system.base * system.base ^ text.length :=
      Nat.mul_le_mul_left _ (ih htext)
    rw [number_concat, List.length_append, List.length_singleton, Nat.pow_succ,
      Nat.mul_comm (system.base ^ _)]
    rw [Nat.mul_add] at hle
    omega

theorem length_toDigits_le {text : Text} (h : system.IsNumber text) :
    (Nat.toDigits system.base (system.number text)).length ≤ text.length := by
  have hlength : 0 < text.length := List.length_pos_iff.mpr h.1
  exact (Nat.length_toDigits_le_iff system.one_lt_base hlength).mpr (system.number_lt h.2)

-- ---------------------------------------------------------------------------
-- Padding and the sign
-- ---------------------------------------------------------------------------

private theorem number_zeros_append (zeros : Nat) (text : Text) :
    system.number (List.replicate zeros '0' ++ text) = system.number text := by
  have hzero : system.digits.idxOf '0' = 0 := by cases system <;> rfl
  induction zeros with
  | zero => rfl
  | succ zeros ih =>
    rw [← ih]
    simp [number, List.replicate_succ, hzero]

private theorem isNumber_zeros_append {text : Text} (h : system.IsNumber text) (zeros : Nat) :
    system.IsNumber (List.replicate zeros '0' ++ text) := by
  have hzero : '0' ∈ system.digits := by cases system <;> decide
  refine ⟨by simp [h.1], ?_⟩
  rw [List.all_append, h.2, Bool.and_true, List.all_eq_true]
  intro c hc
  rw [List.eq_of_mem_replicate hc]
  simpa using hzero

private theorem dash_not_mem : '-' ∉ system.digits := by cases system <;> decide

private theorem signed?_of_isNumber {text : Text} (h : system.IsNumber text) :
    system.signed? text = some (system.number text : Int) := by
  unfold signed?
  split
  case h_1 rest =>
    -- A digit is no minus sign.
    have hdash : '-' ∈ system.digits := by
      have hall := h.2
      simp only [List.all_cons, Bool.and_eq_true, List.contains_iff_mem] at hall
      exact hall.1
    exact absurd hdash system.dash_not_mem
  case h_2 => rw [if_pos h]

theorem signed?_render {width : Nat} (value : Int) :
    system.signed? ((if value < 0 then ['-'] else []) ++
      Text.zeroPadded width (Nat.toDigits system.base value.natAbs)) = some value := by
  have hnumber := system.isNumber_zeros_append (system.isNumber_toDigits value.natAbs)
    (width - (Nat.toDigits system.base value.natAbs).length)
  have hvalue := system.number_zeros_append
    (width - (Nat.toDigits system.base value.natAbs).length) (Nat.toDigits system.base value.natAbs)
  rw [number_toDigits] at hvalue
  rw [Text.zeroPadded]
  split
  case isTrue hneg =>
    rw [List.singleton_append, signed?, if_pos hnumber, hvalue]
    exact congrArg some (by omega)
  case isFalse hpos =>
    rw [List.nil_append, signed?_of_isNumber _ hnumber, hvalue]
    exact congrArg some (by omega)

-- ---------------------------------------------------------------------------
-- Roman numerals
-- ---------------------------------------------------------------------------

theorem numeral_ne_nil (h : n ≠ 0) : Roman.numeral n ≠ [] := by
  intro hnil
  have hvalue := Roman.value_numeral n
  rw [hnil, Roman.value] at hvalue
  omega

private theorem not_all_isSymbol (front : Text) (width n : Nat) :
    (front ++ Text.zeroPadded width (Nat.toDigits roman.base n)).all Roman.isSymbol ≠ true := by
  intro hall
  obtain ⟨c, hc⟩ := List.exists_mem_of_ne_nil _ (@Nat.toDigits_ne_nil n roman.base)
  have hdigit : c ∈ roman.digits := by
    simpa using List.all_eq_true.mp (roman.all_toDigits n) c hc
  have hapart : roman.digits.all (fun c => !Roman.isSymbol c) = true := by decide
  have hsymbol : Roman.isSymbol c = true :=
    List.all_eq_true.mp hall c (by simp [Text.zeroPadded, hc])
  have hnone := List.all_eq_true.mp hapart c hdigit
  rw [hsymbol] at hnone
  cases hnone

theorem read?_render (width : Nat) (value : Int) :
    system.read? (system.render width value) = some value := by
  unfold render
  split
  case isTrue hroman =>
    obtain ⟨rfl, hpos⟩ := hroman
    have hne : Roman.numeral value.natAbs ≠ [] := numeral_ne_nil (by omega)
    rw [read?, if_pos ⟨rfl, hne, Roman.all_isSymbol_numeral value.natAbs⟩, Roman.value_numeral]
    exact congrArg some (by omega)
  case isFalse =>
    -- No digit of the four bases is a symbol of the Roman numerals.
    rw [read?, if_neg]
    · exact system.signed?_render value
    · rintro ⟨rfl, -, hall⟩
      exact not_all_isSymbol _ width value.natAbs hall

end NumberSystem

/-- What an index shows is read again as the number that it shows; so two numbers are never shown
alike, in no system. But for Roman numerals it is a minus sign for a negative number, zeros and the
shortest run of lower-case digits of the base that denotes the number without its sign, as many
zeros as the width asks for. -/
theorem render_reads_back (index : Index) :
    (index.system ≠ .roman → ∀ value : Int, ∃ zeros shortest,
      index.render value =
        (if value < 0 then ['-'] else []) ++ (List.replicate zeros '0' ++ shortest) ∧
      (index.system.IsNumber shortest ∧ index.system.number shortest = value.natAbs ∧
        ∀ text, index.system.IsNumber text → index.system.number text = value.natAbs →
          shortest.length ≤ text.length) ∧
      zeros + shortest.length = max index.width shortest.length ∧
      index.system.signed? (index.render value) = some value) ∧
    (∀ value : Int, index.system.read? (index.render value) = some value) ∧
    Function.Injective index.render := by
  have hread (value : Int) : index.system.read? (index.render value) = some value :=
    index.system.read?_render index.width value
  refine ⟨?_, hread, ?_⟩
  · intro hroman value
    have hrender : index.render value = (if value < 0 then ['-'] else []) ++
        Text.zeroPadded index.width (Nat.toDigits index.system.base value.natAbs) :=
      if_neg fun h => hroman h.1
    have hnumber := index.system.number_toDigits value.natAbs
    refine ⟨_, Nat.toDigits index.system.base value.natAbs, hrender,
      ⟨index.system.isNumber_toDigits value.natAbs, hnumber, ?_⟩, ?_, ?_⟩
    · intro text htext hsame
      rw [← hsame]
      exact index.system.length_toDigits_le htext
    · omega
    · rw [hrender]
      exact index.system.signed?_render value
  -- What can be read back cannot be two values at once.
  · intro a b hab
    have hsame := hread b
    rw [← hab, hread a] at hsame
    exact Option.some.inj hsame

theorem render_reads_back_leastNumber :
    let index : Index := ⟨1, 1, 20, .hexadecimal, [], none⟩
    index.system ≠ .roman ∧
      index.render (-9223372036854775808) = "-00008000000000000000".toList ∧
      index.system.signed? (index.render (-9223372036854775808)) = some (-9223372036854775808) := by
  -- The least number of 64 bits in sixteen digits and some zeros.
  intro index
  have hroman : index.system ≠ .roman := by decide
  obtain ⟨-, -, -, -, -, hsigned⟩ :=
    (render_reads_back index).1 hroman (-9223372036854775808)
  exact ⟨hroman, by decide, hsigned⟩

end Relabel
