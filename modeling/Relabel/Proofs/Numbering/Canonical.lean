import Mathlib.Data.List.Chain
import Mathlib.Data.List.Infix
import Mathlib.Tactic.IntervalCases
import Relabel.Proofs.Numbering.Roman

/-!
# The form of Roman numerals

Taking the greatest weight that still goes into the number, over and over, ends with the numeral
(`greedy_iff`). The numeral is the thousands followed by the digits of what is left in decimal places,
each with the symbols of its place (`numeral_eq`), and from there it has the usual form
(`Canonical`), since the symbols of one place stay apart from those of the next: `greedy_writes_canonical`.
-/

namespace Relabel.Roman

-- ---------------------------------------------------------------------------
-- The greedy loop
-- ---------------------------------------------------------------------------

/-- A run of the loop that takes a weight away while it goes into the number, then turns to the next
weight, with the text that it writes. -/
inductive Greedy : List (Nat × Text) → Nat → Text → Prop
  | done : Greedy [] n []
  | taken (hle : weight ≤ n) (hrest : Greedy ((weight, symbol) :: ws) (n - weight) text) :
      Greedy ((weight, symbol) :: ws) n (symbol ++ text)
  | passed (hlt : n < weight) (hrest : Greedy ws n text) : Greedy ((weight, symbol) :: ws) n text

private theorem numeralBy_of_le (hpos : 0 < weight) (hle : weight ≤ n) :
    numeralBy n ((weight, symbol) :: ws) =
      symbol ++ numeralBy (n - weight) ((weight, symbol) :: ws) := by
  rw [numeralBy, numeralBy, Nat.div_eq_sub_div hpos hle, Nat.mod_eq_sub_mod hle,
    List.replicate_succ, List.flatten_cons, List.append_assoc]

private theorem numeralBy_of_lt (hlt : n < weight) :
    numeralBy n ((weight, symbol) :: ws) = numeralBy n ws := by
  rw [numeralBy, Nat.div_eq_of_lt hlt, Nat.mod_eq_of_lt hlt]
  rfl

theorem Greedy.eq_numeralBy (h : Greedy ws n text) (hpos : ∀ a ∈ ws, 0 < a.1) :
    text = numeralBy n ws := by
  induction h with
  | done => rfl
  | taken hle _ ih =>
    rw [numeralBy_of_le (hpos _ List.mem_cons_self) hle, ← ih hpos]
  | passed hlt _ ih =>
    rw [numeralBy_of_lt hlt, ← ih fun a ha => hpos a (List.mem_cons_of_mem _ ha)]

theorem greedy_numeralBy (hpos : ∀ a ∈ ws, 0 < a.1) (n : Nat) : Greedy ws n (numeralBy n ws) := by
  induction ws generalizing n with
  | nil => exact .done
  | cons a ws ih =>
    obtain ⟨weight, symbol⟩ := a
    obtain ⟨hweight, hws⟩ := List.forall_mem_cons.mp hpos
    induction n using Nat.strong_induction_on with
    | h n ihn =>
      by_cases hle : weight ≤ n
      · rw [numeralBy_of_le hweight hle]
        exact .taken hle (ihn _ (Nat.sub_lt_of_pos_le hweight hle))
      · rw [numeralBy_of_lt (Nat.lt_of_not_le hle)]
        exact .passed (Nat.lt_of_not_le hle) (ih hws n)

theorem greedy_iff (hpos : ∀ a ∈ ws, 0 < a.1) : Greedy ws n text ↔ text = numeralBy n ws :=
  ⟨fun h => h.eq_numeralBy hpos, fun h => h ▸ greedy_numeralBy hpos n⟩

-- ---------------------------------------------------------------------------
-- Decimal places
-- ---------------------------------------------------------------------------

/-- The symbols of a decimal place, for one, five and ten of it. -/
structure Rank where
  one : Char
  five : Char
  ten : Char

def hundreds : Rank := ⟨'C', 'D', 'M'⟩

def tens : Rank := ⟨'X', 'L', 'C'⟩

def units : Rank := ⟨'I', 'V', 'X'⟩

namespace Rank

def symbols (r : Rank) : List Char := [r.one, r.five, r.ten]

/-- A decimal digit at the place; 0 leaves the place out. -/
def digit (r : Rank) : Nat → Text
  | 1 => [r.one]
  | 2 => [r.one, r.one]
  | 3 => [r.one, r.one, r.one]
  | 4 => [r.one, r.five]
  | 5 => [r.five]
  | 6 => [r.five, r.one]
  | 7 => [r.five, r.one, r.one]
  | 8 => [r.five, r.one, r.one, r.one]
  | 9 => [r.one, r.ten]
  | _ => []

def weights (r : Rank) : List (Nat × Text) :=
  [(9, [r.one, r.ten]), (5, [r.five]), (4, [r.one, r.five]), (1, [r.one])]

theorem numeralBy_weights (r : Rank) (h : d < 10) : numeralBy d r.weights = r.digit d := by
  interval_cases d <;> rfl

theorem digit_subset (r : Rank) (d : Nat) : r.digit d ⊆ r.symbols := by
  unfold digit
  split <;> simp [symbols]

theorem head?_digit {r : Rank} (h : c ∈ (r.digit d).head?) : c ∈ [r.one, r.five] := by
  unfold digit at h
  split at h <;> simp_all

end Rank

def standard (n : Nat) : Text :=
  hundreds.digit (n / 100 % 10) ++ tens.digit (n / 10 % 10) ++ units.digit (n % 10)

def scaled (unit : Nat) (ws : List (Nat × Text)) : List (Nat × Text) :=
  ws.map fun a => (unit * a.1, a.2)

theorem weights_eq : weights = (1000, ['M']) ::
    (scaled 100 hundreds.weights ++ (scaled 10 tens.weights ++ (scaled 1 units.weights ++ []))) := rfl

theorem numeralBy_scaled (unit n : Nat) (ws rest : List (Nat × Text)) :
    numeralBy n (scaled unit ws ++ rest) =
      numeralBy (n / unit) ws ++
        numeralBy (unit * ws.foldl (fun q a => q % a.1) (n / unit) + n % unit) rest := by
  induction ws generalizing n with
  | nil => simp [scaled, numeralBy, Nat.div_add_mod]
  | cons a ws ih =>
    simp only [scaled] at ih
    have hquotient := Nat.mod_mul_right_div_self n unit a.1
    have hremainder := Nat.mod_mul_right_mod n unit a.1
    simp only [scaled, List.map_cons, List.cons_append, numeralBy, List.foldl_cons]
    rw [ih, hquotient, hremainder, ← Nat.div_div_eq_div_mul, List.append_assoc]

theorem numeralBy_rank (r : Rank) (h : n / unit < 10) (rest : List (Nat × Text)) :
    numeralBy n (scaled unit r.weights ++ rest) =
      r.digit (n / unit) ++ numeralBy (n % unit) rest := by
  have hleft : r.weights.foldl (fun q a => q % a.1) (n / unit) = 0 := by
    simp [Rank.weights, Nat.mod_one]
  rw [numeralBy_scaled, r.numeralBy_weights h, hleft, Nat.mul_zero, Nat.zero_add]

theorem numeral_eq (n : Nat) :
    numeral n = List.replicate (n / 1000) 'M' ++ standard (n % 1000) := by
  -- The loop finds a digit in the remainder of the place before, `standard` in the whole number.
  rw [numeral, weights_eq, numeralBy, List.flatten_replicate_singleton,
    numeralBy_rank hundreds (by omega), numeralBy_rank tens (by omega),
    numeralBy_rank units (by omega), standard, numeralBy, List.append_nil, List.append_assoc]
  congr 4 <;> omega

-- ---------------------------------------------------------------------------
-- The usual form
-- ---------------------------------------------------------------------------

/-- The pairs in which the first symbol is taken away from the second. -/
def subtractive : List Text := ["IV", "IX", "XL", "XC", "CD", "CM"].map String.toList

/-- None of V, L and D twice, never four I, X or C in a row, and before a greater symbol nothing but
a symbol of one of the subtractive pairs. -/
structure Canonical (text : Text) : Prop where
  once : ∀ c ∈ "VLD".toList, text.count c ≤ 1
  runs : ∀ c ∈ "IXC".toList, ¬List.replicate 4 c <:+: text
  pairs : text.IsChain fun c d => weightOf c < weightOf d → subtractive.contains [c, d]

instance (text : Text) : Decidable (Canonical text) :=
  decidable_of_iff
    ("VLD".toList.all (fun c => text.count c ≤ 1) = true ∧
      "IXC".toList.all (fun c => ¬List.replicate 4 c <:+: text) = true ∧
      text.IsChain fun c d => weightOf c < weightOf d → subtractive.contains [c, d])
    ⟨fun ⟨once, runs, pairs⟩ => ⟨by simpa using once, by simpa using runs, pairs⟩,
      fun h => ⟨by simpa using h.once, by simpa using h.runs, h.pairs⟩⟩

/-- The second text begins with less than the first one is made of, and each of V, L and D stands in
one of them only. -/
structure Apart (s t : Text) : Prop where
  less : ∀ c ∈ s, ∀ d ∈ t.head?, weightOf d < weightOf c
  once : ∀ c ∈ "VLD".toList, c ∈ s → c ∉ t

theorem Apart.flatten {texts : List Text} (h : ∀ t ∈ texts, Apart s t) : Apart s texts.flatten where
  less := by
    intro c hc d hd
    rw [List.head?_flatten] at hd
    obtain ⟨t, ht, hd⟩ := List.exists_of_findSome?_eq_some hd
    exact (h t ht).less c hc d hd
  once := by
    intro c hc hs ht
    obtain ⟨t, ht, hct⟩ := List.mem_flatten.mp ht
    exact (h t ht).once c hc hs hct

theorem Apart.replicate_infix (h : Apart s t) (hrun : List.replicate n c <:+: s ++ t) :
    List.replicate n c <:+: s ∨ List.replicate n c <:+: t := by
  rcases List.infix_append_iff.mp hrun with hs | ht | ⟨front, back, hsplit, hfront, hback⟩
  · exact .inl hs
  · exact .inr ht
  · cases back with
    | nil =>
      rw [List.append_nil] at hsplit
      exact .inl (hsplit ▸ hfront.isInfix)
    | cons d back =>
      cases front with
      | nil => exact .inr (hsplit ▸ hback.isInfix)
      | cons e front =>
        -- The run has symbols on both sides, but the second text begins with a lesser one.
        have hrun : ∀ x ∈ e :: front ++ d :: back, x = c := fun x hx =>
          List.eq_of_mem_replicate (hsplit ▸ hx)
        obtain rfl := hrun e (by simp)
        obtain rfl := hrun d (by simp)
        have hd : d ∈ t.head? := by
          obtain ⟨rest, rfl⟩ := hback
          rfl
        exact absurd (h.less d (hfront.subset List.mem_cons_self) d hd) (Nat.lt_irrefl _)

theorem Canonical.append (hs : Canonical s) (ht : Canonical t) (h : Apart s t) :
    Canonical (s ++ t) where
  once := by
    intro c hc
    rw [List.count_append]
    by_cases hcs : c ∈ s
    · rw [List.count_eq_zero_of_not_mem (h.once c hc hcs)]
      exact hs.once c hc
    · rw [List.count_eq_zero_of_not_mem hcs, Nat.zero_add]
      exact ht.once c hc
  runs := by
    intro c hc hrun
    rcases h.replicate_infix hrun with hrun | hrun
    · exact hs.runs c hc hrun
    · exact ht.runs c hc hrun
  pairs := by
    refine List.isChain_append.mpr ⟨hs.pairs, ht.pairs, fun c hc d hd hlt => ?_⟩
    exact absurd hlt (Nat.lt_asymm (h.less c (List.mem_of_mem_getLast? hc) d hd))

theorem canonical_flatten {texts : List Text} (hall : ∀ t ∈ texts, Canonical t)
    (hapart : texts.Pairwise Apart) : Canonical texts.flatten := by
  induction texts with
  | nil => exact ⟨by simp, by simp, .nil⟩
  | cons t texts ih =>
    obtain ⟨ht, hrest⟩ := List.forall_mem_cons.mp hall
    obtain ⟨hfirst, hapart⟩ := List.pairwise_cons.mp hapart
    exact ht.append (ih hrest hapart) (.flatten hfirst)

private theorem canonical_thousands (n : Nat) : Canonical (List.replicate n 'M') where
  once := by
    intro c hc
    have hne : c ≠ 'M' := by rintro rfl; exact absurd hc (by decide)
    rw [List.count_eq_zero_of_not_mem fun h => hne (List.eq_of_mem_replicate h)]
    exact Nat.zero_le 1
  runs := by
    intro c hc hrun
    obtain rfl : c = 'M' := List.eq_of_mem_replicate (hrun.subset List.mem_cons_self)
    exact absurd hc (by decide)
  pairs := List.isChain_replicate_of_rel n fun h => absurd h (Nat.lt_irrefl _)

private theorem canonical_digit : ∀ r ∈ [hundreds, tens, units], ∀ d < 10, Canonical (r.digit d) := by
  decide

/-- Whether the digits of the place begin with less than each of the symbols and have none of their
V, L and D. -/
def Rank.isBelow (r : Rank) (front : List Char) : Bool :=
  front.all fun c =>
    [r.one, r.five].all (weightOf · < weightOf c) ∧ ¬(c ∈ "VLD".toList ∧ c ∈ r.symbols)

private theorem apart_digit {r : Rank} (hs : s ⊆ front) (h : r.isBelow front = true) :
    Apart s (r.digit d) := by
  have hbelow (c : Char) (hc : c ∈ s) : (∀ e ∈ [r.one, r.five], weightOf e < weightOf c) ∧
      ¬(c ∈ "VLD".toList ∧ c ∈ r.symbols) := by
    simpa only [decide_eq_true_eq, List.all_eq_true] using List.all_eq_true.mp h c (hs hc)
  exact ⟨fun c hc e he => (hbelow c hc).1 e (Rank.head?_digit he),
    fun c hvld hc hd => (hbelow c hc).2 ⟨hvld, r.digit_subset d hd⟩⟩

/-- Thousands and three digits: what stands in front does not mix with what follows. -/
private theorem canonical_places (thousands : Nat) (hh : h < 10) (ht : t < 10) (hu : u < 10) :
    Canonical [List.replicate thousands 'M', hundreds.digit h, tens.digit t, units.digit u].flatten := by
  have hthousands : List.replicate thousands 'M' ⊆ ['M'] := fun c hc => by
    simpa using List.eq_of_mem_replicate hc
  have hhundreds := hundreds.digit_subset h
  have htens := tens.digit_subset t
  -- Each place is canonical, and every two places are apart, since their symbols are.
  refine canonical_flatten ?_ ?_
  · simp only [List.forall_mem_cons]
    exact ⟨canonical_thousands _, canonical_digit hundreds (by simp) h hh,
      canonical_digit tens (by simp) t ht, canonical_digit units (by simp) u hu, by simp⟩
  · simp only [List.pairwise_cons, List.forall_mem_cons]
    exact ⟨⟨apart_digit hthousands rfl, apart_digit hthousands rfl, apart_digit hthousands rfl,
        by simp⟩,
      ⟨apart_digit hhundreds rfl, apart_digit hhundreds rfl, by simp⟩,
      ⟨apart_digit htens rfl, by simp⟩, by simp, .nil⟩

theorem canonical_numeral (n : Nat) : Canonical (numeral n) := by
  have hplaces := canonical_places (n / 1000) (Nat.mod_lt (n % 1000 / 100) (by decide))
    (Nat.mod_lt (n % 1000 / 10) (by decide)) (Nat.mod_lt (n % 1000) (by decide))
  rw [numeral_eq, standard]
  simpa using hplaces

/-- The greedy loop ends, with the numeral and with nothing else. The numeral denotes the number; it
is an M for each thousand followed by the standard numeral of what is left, and has the usual form. -/
theorem greedy_writes_canonical (n : Nat) :
    (∀ text, Greedy weights n text ↔ text = numeral n) ∧ value (numeral n) = n ∧
      numeral n = List.replicate (n / 1000) 'M' ++ standard (n % 1000) ∧ Canonical (numeral n) :=
  ⟨fun _ => greedy_iff (by decide), value_numeral n, numeral_eq n, canonical_numeral n⟩

example : numeral 1994 = "MCMXCIV".toList := by decide

end Relabel.Roman
