import Relabel.Proofs.Text.Order
import Relabel.Proofs.Text.Runs

/-!
# Natural order sorts numbers by value

No two different texts are equal in natural order, since a run of digits is known by its value and
its length. What two texts begin with alike does not count, so the first runs of digits that differ
decide by their values, however many zeros stand in front (`naturalOrder_total`).
-/

namespace Relabel

namespace Chunk

theorem order_self (chunk : Chunk) : chunk.order chunk = .eq := by
  cases chunk with
  | number digits =>
    have hself : Text.order (significant digits) (significant digits) = .eq :=
      Std.ReflCmp.compare_self
    simp [order, hself]
  | char c => simp [order]

theorem eq_of_order_eq {a b : Chunk} (ha : a.Proper) (hb : b.Proper) (h : a.order b = .eq) :
    a = b := by
  cases a with
  | number as =>
    cases b with
    | number bs =>
      rw [order_number ha.2 hb.2, Ordering.then_eq_eq, Nat.compare_eq_eq, Nat.compare_eq_eq] at h
      obtain ⟨hvalue, hlength⟩ := h
      have horder := order_eq_compare_value ha.2 hb.2 hlength
      rw [Nat.compare_eq_eq.mpr hvalue] at horder
      rw [Text.eq_of_order_eq horder]
    | char d => exact absurd h (compare_digit ha.isDigit_head hb).2
  | char c =>
    cases b with
    | number bs =>
      have h : compare c (number bs).head = .eq := h
      exact absurd (Std.OrientedCmp.eq_symm h) (compare_digit hb.isDigit_head ha).2
    | char d =>
      have h : compare c d = .eq := h
      rw [compare_eq_compare_toNat, Nat.compare_eq_eq] at h
      rw [Char.toNat_inj.mp h]

end Chunk

namespace Text

-- ---------------------------------------------------------------------------
-- Texts that begin alike
-- ---------------------------------------------------------------------------

private theorem chunks_number {digits rest : Text} (hne : digits ≠ []) (hdigits : ∀ c ∈ digits, c.isDigit)
    (hrest : ∀ c ∈ rest.head?, c.isDigit = false) :
    chunks (digits ++ rest) = .number digits :: chunks rest := by
  have hstop : ∀ more others, chunks rest ≠ .number more :: others := by
    intro more others h
    cases rest with
    | nil => simp [chunks] at h
    | cons c cs => simp [chunks, hrest c (by simp)] at h
  induction digits with
  | nil => exact absurd rfl hne
  | cons c cs ih =>
    obtain ⟨hc, hcs⟩ := List.forall_mem_cons.mp hdigits
    rw [List.cons_append, chunks, if_pos hc]
    by_cases hnil : cs = []
    · subst hnil
      split
      case h_1 more others h => exact absurd h (hstop more others)
      case h_2 => rfl
    · rw [ih hnil hcs]

/-- A run of digits does not reach over a character that is none. -/
theorem chunks_append {front : Text} (hfront : ∀ c ∈ front.getLast?, c.isDigit = false)
    (rest : Text) : chunks (front ++ rest) = chunks front ++ chunks rest := by
  induction front with
  | nil => rfl
  | cons c cs ih =>
    cases cs with
    | nil =>
      have hc : c.isDigit = false := hfront c (by simp)
      simp [chunks, hc]
    | cons d ds =>
      have hrest := ih (by simpa using hfront)
      rw [List.cons_append, chunks, chunks.eq_def (c :: d :: ds), hrest]
      simp only
      split
      case isFalse => rfl
      case isTrue =>
        -- The chunks of a text that is not empty begin with what begins those of the whole.
        cases hchunks : chunks (d :: ds) with
        | nil =>
          have hempty := chunks_flatten (d :: ds)
          simp [hchunks] at hempty
        | cons chunk others => cases chunk <;> rfl

theorem orderChunks_append (front as bs : List Chunk) :
    orderChunks (front ++ as) (front ++ bs) = orderChunks as bs := by
  induction front with
  | nil => rfl
  | cons chunk front ih =>
    rw [List.cons_append, List.cons_append, orderChunks, Chunk.order_self, ih, Ordering.eq_then]

theorem naturalOrder_lt_of_number_lt {front x y s t : Text}
    (hfront : ∀ c ∈ front.getLast?, c.isDigit = false) (hx : x.number? = some m)
    (hy : y.number? = some n) (hs : ∀ c ∈ s.head?, c.isDigit = false)
    (ht : ∀ c ∈ t.head?, c.isDigit = false) (hlt : m < n) :
    naturalOrder (front ++ x ++ s) (front ++ y ++ t) = .lt := by
  obtain ⟨⟨hxne, hxdigits⟩, hxvalue⟩ := number?_eq_some_iff.mp hx
  obtain ⟨⟨hyne, hydigits⟩, hyvalue⟩ := number?_eq_some_iff.mp hy
  have hvalues : compare (Chunk.value x) (Chunk.value y) = .lt := by
    rw [Chunk.value, Chunk.value, hxvalue, hyvalue]
    exact Nat.compare_eq_lt.mpr hlt
  rw [naturalOrder, List.append_assoc, List.append_assoc, chunks_append hfront,
    chunks_append hfront, orderChunks_append, chunks_number hxne hxdigits hs,
    chunks_number hyne hydigits ht, orderChunks, Chunk.order_number hxdigits hydigits, hvalues]
  rfl

-- ---------------------------------------------------------------------------
-- Equal texts and texts without digits
-- ---------------------------------------------------------------------------

theorem eq_of_orderChunks_eq {as bs : List Chunk} (has : ∀ a ∈ as, a.Proper)
    (hbs : ∀ b ∈ bs, b.Proper) (h : orderChunks as bs = .eq) : as = bs := by
  induction as generalizing bs with
  | nil =>
    cases bs with
    | nil => rfl
    | cons => simp [orderChunks] at h
  | cons a as ih =>
    cases bs with
    | nil => simp [orderChunks] at h
    | cons b bs =>
      obtain ⟨ha, has⟩ := List.forall_mem_cons.mp has
      obtain ⟨hb, hbs⟩ := List.forall_mem_cons.mp hbs
      obtain ⟨hfirst, hrest⟩ := Ordering.then_eq_eq.mp h
      rw [Chunk.eq_of_order_eq ha hb hfirst, ih has hbs hrest]

theorem naturalOrder_eq_iff {a b : Text} : naturalOrder a b = .eq ↔ a = b := by
  constructor
  · intro h
    have hchunks : chunks a = chunks b :=
      eq_of_orderChunks_eq (fun _ => proper_of_mem_chunks) (fun _ => proper_of_mem_chunks) h
    rw [← chunks_flatten a, hchunks, chunks_flatten]
  · rintro rfl
    exact Std.ReflCmp.compare_self

private theorem chunks_of_no_digit {text : Text} (h : ∀ c ∈ text, c.isDigit = false) :
    chunks text = text.map .char := by
  induction text with
  | nil => rfl
  | cons c cs ih =>
    obtain ⟨hc, hcs⟩ := List.forall_mem_cons.mp h
    rw [chunks, if_neg (by simp [hc]), ih hcs, List.map_cons]

private theorem orderChunks_map_char (a b : Text) :
    orderChunks (a.map .char) (b.map .char) = Text.order a b := by
  induction a generalizing b with
  | nil => cases b <;> rfl
  | cons c cs ih =>
    cases b with
    | nil => rfl
    | cons d ds => rw [List.map_cons, List.map_cons, orderChunks, ih]; rfl

/-- Natural order is a total order in which only equal texts are equal. Without digits it is the
order of the characters, and where two texts begin alike and go on with whole runs of digits, the
smaller number comes first. -/
theorem naturalOrder_total :
    (∀ a b : Text, naturalOrder a b = .eq ↔ a = b) ∧
      (∀ a b : Text, naturalOrder b a = (naturalOrder a b).swap) ∧
      (∀ a b c : Text, naturalOrder a b = .lt → naturalOrder b c = .lt → naturalOrder a c = .lt) ∧
      (∀ a b : Text, (∀ c ∈ a ++ b, c.isDigit = false) → naturalOrder a b = Text.order a b) ∧
      ∀ (front x y s t : Text) (m n : Nat), (∀ c ∈ front.getLast?, c.isDigit = false) →
        x.number? = some m → y.number? = some n → (∀ c ∈ s.head?, c.isDigit = false) →
        (∀ c ∈ t.head?, c.isDigit = false) → m < n →
        naturalOrder (front ++ x ++ s) (front ++ y ++ t) = .lt := by
  refine ⟨fun a b => naturalOrder_eq_iff, fun a b => Std.OrientedCmp.eq_swap,
    fun a b c => Std.TransCmp.lt_trans, fun a b h => ?_,
    fun front x y s t m n => naturalOrder_lt_of_number_lt⟩
  obtain ⟨ha, hb⟩ := List.forall_mem_append.mp h
  rw [naturalOrder, chunks_of_no_digit ha, chunks_of_no_digit hb, orderChunks_map_char]

theorem naturalOrder_total_zerosInFront :
    naturalOrder ("shot ".toList ++ "0009".toList ++ "z.jpg".toList)
      ("shot ".toList ++ "10".toList ++ ".jpg".toList) = .lt :=
  -- Zeros in front do not make a number greater, nor does what comes behind it.
  naturalOrder_total.2.2.2.2 _ _ _ _ _ 9 10 (by rintro c ⟨⟩; rfl) (by decide) (by decide)
    (by rintro c ⟨⟩; rfl) (by rintro c ⟨⟩; rfl) (by decide)

end Text

end Relabel
