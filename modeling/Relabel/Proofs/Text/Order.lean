import Relabel.Proofs.Text.Runs
import Relabel.Text.NaturalOrder

/-!
# The orders of texts

Texts by code points and texts in natural order are compared item by item from the left, so both
orders are consistent because those of the items are. In natural order the items are chunks: all
runs of digits stand at one place among the characters, and of two runs the one with the smaller
value comes first (`order_number`).
-/

namespace Relabel

theorem Text.order_eq_compareLex (a b : Text) : Text.order a b = List.compareLex compare a b := by
  induction a generalizing b with
  | nil => cases b <;> rfl
  | cons c cs ih =>
    cases b with
    | nil => rfl
    | cons d ds => rw [Text.order, List.compareLex_cons_cons, ih]

instance : Std.TransCmp Text.order := by
  have heq : Text.order = List.compareLex compare := funext fun a => funext (Text.order_eq_compareLex a)
  rw [heq]
  infer_instance

theorem compare_eq_compare_toNat (c d : Char) : compare c d = compare c.toNat d.toNat := by
  simp only [compare, compareOfLessAndEq, Char.lt_def, UInt32.lt_iff_toNat_lt, ← Char.toNat_inj]
  rfl

theorem Text.eq_of_order_eq {a b : Text} (h : order a b = .eq) : a = b := by
  induction a generalizing b with
  | nil =>
    cases b with
    | nil => rfl
    | cons => simp [order] at h
  | cons c cs ih =>
    cases b with
    | nil => simp [order] at h
    | cons d ds =>
      obtain ⟨hfirst, hrest⟩ := Ordering.then_eq_eq.mp h
      rw [compare_eq_compare_toNat, Nat.compare_eq_eq] at hfirst
      rw [Char.toNat_inj.mp hfirst, ih hrest]

namespace Chunk

-- ---------------------------------------------------------------------------
-- Runs of digits by their values
-- ---------------------------------------------------------------------------

def value (digits : Text) : Nat := Nat.ofDigitChars 10 digits 0

private theorem value_cons (c : Char) (cs : Text) :
    value (c :: cs) = 10 ^ cs.length * (c.toNat - '0'.toNat) + value cs :=
  ofDigitChars_cons_zero c cs

private theorem value_lt {digits : Text} (h : ∀ c ∈ digits, c.isDigit) : value digits < 10 ^ digits.length :=
  ofDigitChars_lt h

private theorem compare_digits {c d : Char} (hc : c.isDigit) (hd : d.isDigit) :
    compare c d = compare (c.toNat - '0'.toNat) (d.toNat - '0'.toNat) := by
  have hc : 48 ≤ c.toNat ∧ c.toNat ≤ 57 := Char.isDigit_iff_toNat.mp hc
  have hd : 48 ≤ d.toNat ∧ d.toNat ≤ 57 := Char.isDigit_iff_toNat.mp hd
  have hless : c.toNat - 48 < d.toNat - 48 ↔ c.toNat < d.toNat := by omega
  have hsame : c.toNat - 48 = d.toNat - 48 ↔ c.toNat = d.toNat := by omega
  rw [compare_eq_compare_toNat]
  simp only [compare, compareOfLessAndEq, Char.reduceToNat, hless, hsame]

private theorem compare_mul_add {n x y u v : Nat} (hu : u < n) (hv : v < n) :
    compare (n * x + u) (n * y + v) = (compare x y).then (compare u v) := by
  rcases Nat.lt_trichotomy x y with hlt | rfl | hgt
  · have hle : n * (x + 1) ≤ n * y := Nat.mul_le_mul_left n hlt
    have hless : n * x + u < n * y + v := by rw [Nat.mul_succ] at hle; omega
    rw [Nat.compare_eq_lt.mpr hlt, Nat.compare_eq_lt.mpr hless, Ordering.lt_then]
  · rw [Nat.compare_eq_eq.mpr rfl, Ordering.eq_then]
    simp only [compare, compareOfLessAndEq, Nat.add_lt_add_iff_left, Nat.add_left_cancel_iff]
  · have hle : n * (y + 1) ≤ n * x := Nat.mul_le_mul_left n hgt
    have hmore : n * y + v < n * x + u := by rw [Nat.mul_succ] at hle; omega
    rw [Nat.compare_eq_gt.mpr hgt, Nat.compare_eq_gt.mpr hmore, Ordering.gt_then]

theorem order_eq_compare_value {as bs : Text} (has : ∀ c ∈ as, c.isDigit)
    (hbs : ∀ c ∈ bs, c.isDigit) (hlength : as.length = bs.length) :
    Text.order as bs = compare (value as) (value bs) := by
  induction as generalizing bs with
  | nil =>
    rw [List.eq_nil_of_length_eq_zero hlength.symm]
    rfl
  | cons a as ih =>
    obtain ⟨b, bs, rfl⟩ := List.exists_cons_of_length_eq_add_one hlength.symm
    obtain ⟨ha, has⟩ := List.forall_mem_cons.mp has
    obtain ⟨hb, hbs⟩ := List.forall_mem_cons.mp hbs
    have hlength : as.length = bs.length := Nat.succ.inj hlength
    rw [Text.order, ih has hbs hlength, compare_digits ha hb, value_cons, value_cons, hlength]
    exact (compare_mul_add (hlength ▸ value_lt has) (value_lt hbs)).symm

theorem value_significant (digits : Text) : value (significant digits) = value digits := by
  induction digits with
  | nil => rfl
  | cons c cs ih =>
    rw [significant, List.dropWhile_cons]
    split
    case isFalse => rfl
    case isTrue h =>
      rw [beq_iff_eq] at h
      rw [← significant, ih, value_cons, h]
      simp

theorem isDigit_of_mem_significant {digits : Text} (h : ∀ c ∈ digits, c.isDigit) :
    ∀ c ∈ significant digits, c.isDigit :=
  fun c hc => h c ((List.dropWhile_sublist _).subset hc)

/-- A run of digits that has the shorter one without zeros in front has the smaller value. -/
theorem value_lt_of_length_lt {as bs : Text} (has : ∀ c ∈ as, c.isDigit)
    (hbs : ∀ c ∈ bs, c.isDigit) (hlt : (significant as).length < (significant bs).length) :
    value as < value bs := by
  obtain ⟨b, rest, hcons⟩ := List.exists_cons_of_length_pos (Nat.zero_lt_of_lt hlt)
  have hdigit : b.isDigit := isDigit_of_mem_significant hbs b (by simp [hcons])
  have hfirst : b ≠ '0' := by
    have hstop := List.head?_dropWhile_not (· == '0') bs
    rw [show bs.dropWhile (· == '0') = b :: rest from hcons] at hstop
    simpa using hstop
  have hpos : 1 ≤ b.toNat - '0'.toNat := by
    have hrange : 48 ≤ b.toNat ∧ b.toNat ≤ 57 := Char.isDigit_iff_toNat.mp hdigit
    have hne : b.toNat ≠ 48 := fun h => hfirst (Char.toNat_inj.mp h)
    show 1 ≤ b.toNat - 48
    omega
  rw [hcons, List.length_cons, Nat.lt_succ_iff] at hlt
  calc value as
      = value (significant as) := (value_significant as).symm
    _ < 10 ^ (significant as).length := value_lt (isDigit_of_mem_significant has)
    _ ≤ 10 ^ rest.length := Nat.pow_le_pow_right (by decide) hlt
    _ ≤ 10 ^ rest.length * (b.toNat - '0'.toNat) := Nat.le_mul_of_pos_right _ hpos
    _ ≤ value (b :: rest) := value_cons b rest ▸ Nat.le_add_right ..
    _ = value bs := by rw [← hcons, value_significant]

theorem compare_significant {as bs : Text} (has : ∀ c ∈ as, c.isDigit)
    (hbs : ∀ c ∈ bs, c.isDigit) :
    (compare (significant as).length (significant bs).length).then
      (Text.order (significant as) (significant bs)) = compare (value as) (value bs) := by
  rcases Nat.lt_trichotomy (significant as).length (significant bs).length with hlt | heq | hgt
  · rw [Nat.compare_eq_lt.mpr hlt, Nat.compare_eq_lt.mpr (value_lt_of_length_lt has hbs hlt),
      Ordering.lt_then]
  · rw [Nat.compare_eq_eq.mpr heq, Ordering.eq_then, order_eq_compare_value
      (isDigit_of_mem_significant has) (isDigit_of_mem_significant hbs) heq, value_significant,
      value_significant]
  · rw [Nat.compare_eq_gt.mpr hgt, Nat.compare_eq_gt.mpr (value_lt_of_length_lt hbs has hgt),
      Ordering.gt_then]

/-- Runs of digits compare by their values and then by their lengths. -/
theorem order_number {as bs : Text} (has : ∀ c ∈ as, c.isDigit) (hbs : ∀ c ∈ bs, c.isDigit) :
    (number as).order (number bs) =
      (compare (value as) (value bs)).then (compare as.length bs.length) := by
  rw [order, compare_significant has hbs]

-- ---------------------------------------------------------------------------
-- Chunks in order
-- ---------------------------------------------------------------------------

def Proper : Chunk → Prop
  | number digits => digits ≠ [] ∧ ∀ c ∈ digits, c.isDigit
  | char c => c.isDigit = false

/-- Where a chunk stands among the characters: a run of digits stands where the zero does. -/
def place : Chunk → Nat
  | number _ => '0'.toNat
  | char c => c.toNat

/-- The value of a run, and how many digits it has. -/
def weight : Chunk → Nat × Nat
  | number digits => (value digits, digits.length)
  | char _ => (0, 0)

def rank : Chunk → Chunk → Ordering :=
  compareLex (compareOn place) (compareLex (compareOn (·.weight.1)) (compareOn (·.weight.2)))

instance : Std.TransCmp rank := by
  unfold rank
  infer_instance

theorem isDigit_iff (c : Char) : c.isDigit = true ↔ '0'.toNat ≤ c.toNat ∧ c.toNat ≤ '9'.toNat := by
  simp [Char.isDigit, UInt32.le_iff_toNat_le]

theorem compare_digit {c d : Char} (hc : c.isDigit) (hd : d.isDigit = false) :
    compare c d = compare '0'.toNat d.toNat ∧ compare c d ≠ .eq := by
  have hd : ¬('0'.toNat ≤ d.toNat ∧ d.toNat ≤ '9'.toNat) := fun h => by
    simp [(isDigit_iff d).mpr h] at hd
  have hc := (isDigit_iff c).mp hc
  simp only [Char.reduceToNat] at hc hd ⊢
  rw [compare_eq_compare_toNat]
  rcases Nat.lt_or_ge d.toNat 48 with hlt | hge
  · rw [Nat.compare_eq_gt.mpr hlt, Nat.compare_eq_gt.mpr (show d.toNat < c.toNat by omega)]
    exact ⟨rfl, by decide⟩
  · rw [Nat.compare_eq_lt.mpr (show 48 < d.toNat by omega),
      Nat.compare_eq_lt.mpr (show c.toNat < d.toNat by omega)]
    exact ⟨rfl, by decide⟩

theorem rank_of_place {a b : Chunk} (h : compare a.place b.place ≠ .eq) :
    a.rank b = compare a.place b.place := by
  simp only [rank, compareLex, compareOn]
  cases hplace : compare a.place b.place <;> simp_all

theorem Proper.isDigit_head {digits : Text} (h : (number digits).Proper) :
    (number digits).head.isDigit := by
  obtain ⟨hne, hdigits⟩ := h
  cases digits with
  | nil => exact absurd rfl hne
  | cons c cs => exact hdigits c (by simp)

private theorem order_number_char {digits : Text} (hdigits : (number digits).Proper) {c : Char}
    (hc : (char c).Proper) : (number digits).order (char c) = (number digits).rank (char c) := by
  obtain ⟨hside, hne⟩ := compare_digit hdigits.isDigit_head hc
  rw [rank_of_place (hside ▸ hne)]
  exact hside

theorem order_eq_rank {a b : Chunk} (ha : a.Proper) (hb : b.Proper) : a.order b = a.rank b := by
  cases a with
  | number a =>
    cases b with
    | number b => simp [order_number ha.2 hb.2, rank, compareLex, compareOn, place, weight]
    | char d => exact order_number_char ha hb
  | char c =>
    cases b with
    | number b =>
      have hswap : (char c).order (number b) = ((number b).order (char c)).swap :=
        Std.OrientedOrd.eq_swap
      rw [hswap, order_number_char hb ha]
      exact Std.OrientedCmp.eq_swap.symm
    | char d => simp [order, rank, compareLex, compareOn, place, weight, head, compare_eq_compare_toNat]

end Chunk

namespace Text

theorem proper_of_mem_chunks {text : Text} (h : chunk ∈ chunks text) : chunk.Proper := by
  induction text generalizing chunk with
  | nil => simp [chunks] at h
  | cons c cs ih =>
    simp only [chunks] at h
    split at h
    case isTrue hc =>
      split at h
      case h_1 digits rest hrest =>
        rcases List.mem_cons.mp h with rfl | h
        · obtain ⟨-, hdigits⟩ := ih (hrest ▸ List.mem_cons_self)
          exact ⟨by simp, List.forall_mem_cons.mpr ⟨hc, hdigits⟩⟩
        · exact ih (hrest ▸ List.mem_cons_of_mem _ h)
      case h_2 =>
        rcases List.mem_cons.mp h with rfl | h
        · exact ⟨by simp, by simpa using hc⟩
        · exact ih h
    case isFalse hc =>
      rcases List.mem_cons.mp h with rfl | h
      · simpa [Chunk.Proper] using hc
      · exact ih h

theorem orderChunks_eq_compareLex {as bs : List Chunk} (has : ∀ a ∈ as, a.Proper)
    (hbs : ∀ b ∈ bs, b.Proper) : orderChunks as bs = List.compareLex Chunk.rank as bs := by
  induction as generalizing bs with
  | nil => cases bs <;> rfl
  | cons a as ih =>
    cases bs with
    | nil => rfl
    | cons b bs =>
      obtain ⟨ha, has⟩ := List.forall_mem_cons.mp has
      obtain ⟨hb, hbs⟩ := List.forall_mem_cons.mp hbs
      rw [orderChunks, List.compareLex_cons_cons, Chunk.order_eq_rank ha hb, ih has hbs]

theorem naturalOrder_eq_compareLex (a b : Text) :
    naturalOrder a b = List.compareLex Chunk.rank a.chunks b.chunks :=
  orderChunks_eq_compareLex (fun _ => proper_of_mem_chunks) fun _ => proper_of_mem_chunks

instance : Std.TransCmp naturalOrder where
  eq_swap := by
    intro a b
    rw [naturalOrder_eq_compareLex, naturalOrder_eq_compareLex]
    exact Std.OrientedCmp.eq_swap
  isLE_trans := by
    intro a b c
    simp only [naturalOrder_eq_compareLex]
    exact Std.TransCmp.isLE_trans

end Text

end Relabel
