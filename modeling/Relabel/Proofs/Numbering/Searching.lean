import Mathlib.Order.Bounds.Defs
import Relabel.Proofs.Numbering.Sequence

/-!
# The search for a free number

The search as a loop on words: a number has 64 bits and a jump is worked out in 128, without a bound
on how many jumps there are (`Search`). It ends after at most as many jumps as there are ranges, no
jump overflows, and it ends with the least free number on the way; where none has 64 bits, it ends in
a range that holds all that are left (`search_ends`).
-/

namespace Relabel.Index

variable {index : Index}

-- ---------------------------------------------------------------------------
-- Words
-- ---------------------------------------------------------------------------

/-- Whether so many bits hold the number, one of them its sign. -/
def Fits (bits : Nat) (n : Int) : Prop := -2 ^ (bits - 1) ≤ n ∧ n < 2 ^ (bits - 1)

instance (bits : Nat) (n : Int) : Decidable (Fits bits n) := inferInstanceAs (Decidable (_ ∧ _))

def word? (bits : Nat) (n : Int) : Option Int := if Fits bits n then some n else none

private theorem word?_eq_some_iff : word? bits n = some m ↔ Fits bits n ∧ n = m := by
  simp [word?]

theorem fits_64_iff : Fits 64 n ↔ -9223372036854775808 ≤ n ∧ n ≤ largest := by
  simp only [Fits, largest]
  omega

structure InWords (index : Index) : Prop where
  step : Fits 64 index.step
  skip : ∀ r ∈ index.skip, Fits 64 r.least ∧ Fits 64 r.greatest

-- ---------------------------------------------------------------------------
-- The loop
-- ---------------------------------------------------------------------------

def jump? (index : Index) (value : Int) (r : SkipRange) : Option Int := do
  let distance ← word? 128 (r.greatest - value)
  let whole ← word? 128 (distance.tdiv index.step)
  let steps ← word? 128 (whole + 1)
  let length ← word? 128 (steps * index.step)
  word? 128 (value + length)

/-- A run of the loop with so many jumps, from a number to the one that it ends with. Where a jump
overflows there is no run. -/
inductive Search (index : Index) : Nat → Int → Int → Prop
  | free (hfree : index.blocked? value = none) : Search index 0 value value
  | stopped (hblocked : index.blocked? value = some r) (hjump : index.jump? value r = some next)
      (hover : ¬Fits 64 next) : Search index 0 value value
  | crossed (hblocked : index.blocked? value = some r) (hjump : index.jump? value r = some next)
      (hfits : Fits 64 next) (hrest : Search index jumps next found) :
      Search index (jumps + 1) value found

private theorem landing_unique (hblocked : index.blocked? value = some r)
    (hjump : index.jump? value r = some next) (hblocked' : index.blocked? value = some r')
    (hjump' : index.jump? value r' = some next') : next = next' := by
  obtain rfl := Option.some.inj (hblocked.symm.trans hblocked')
  exact Option.some.inj (hjump.symm.trans hjump')

theorem Search.unique (h : index.Search m value found) (h' : index.Search n value other) :
    m = n ∧ found = other := by
  -- The range that blocks a value is the first of the list, so the two runs take the same jumps.
  induction h generalizing n with
  | free hfree =>
    cases h' with
    | free => exact ⟨rfl, rfl⟩
    | stopped hblocked => simp [hfree] at hblocked
    | crossed hblocked => simp [hfree] at hblocked
  | stopped hblocked hjump hover =>
    cases h' with
    | free hfree => simp [hfree] at hblocked
    | stopped => exact ⟨rfl, rfl⟩
    | crossed hblocked' hjump' hfits =>
      obtain rfl := landing_unique hblocked hjump hblocked' hjump'
      exact absurd hfits hover
  | crossed hblocked hjump hfits _ ih =>
    cases h' with
    | free hfree => simp [hfree] at hblocked
    | stopped hblocked' hjump' hover =>
      obtain rfl := landing_unique hblocked hjump hblocked' hjump'
      exact absurd hfits hover
    | crossed hblocked' hjump' _ hrest =>
      obtain rfl := landing_unique hblocked hjump hblocked' hjump'
      obtain ⟨rfl, rfl⟩ := ih hrest
      exact ⟨rfl, rfl⟩

-- ---------------------------------------------------------------------------
-- One jump
-- ---------------------------------------------------------------------------

private theorem eq_behind_of_jump? (hin : r.contains value = true) (h : index.jump? value r = some next) :
    next = index.behind value r := by
  have hdistance : 0 ≤ r.greatest - value := by
    have := (SkipRange.contains_iff.mp hin).2
    omega
  simp only [jump?, bind, Option.bind_eq_some_iff, word?_eq_some_iff] at h
  obtain ⟨_, ⟨-, rfl⟩, _, ⟨-, rfl⟩, _, ⟨-, rfl⟩, _, ⟨-, rfl⟩, -, rfl⟩ := h
  rw [behind, Int.tdiv_eq_ediv_of_nonneg hdistance]

/-- No jump across a range of words overflows: it goes at most one step beyond the range. -/
theorem jump?_eq (hstep : 0 < index.step) (hwords : index.InWords) (hr : r ∈ index.skip)
    (hvalue : Fits 64 value) (hin : r.contains value = true) :
    index.jump? value r = some (index.behind value r) := by
  obtain ⟨-, hgreatest⟩ := SkipRange.contains_iff.mp hin
  obtain ⟨hlow, -⟩ := fits_64_iff.mp hvalue
  obtain ⟨-, hhigh⟩ := fits_64_iff.mp (hwords.skip r hr).2
  obtain ⟨-, hlimit⟩ := fits_64_iff.mp hwords.step
  have hdistance : 0 ≤ r.greatest - value := by omega
  have hquotient : 0 ≤ (r.greatest - value) / index.step := Int.ediv_nonneg hdistance hstep.le
  have hwhole : (r.greatest - value) / index.step ≤ r.greatest - value :=
    Int.ediv_le_self _ hdistance
  have hforward : 0 ≤ (r.greatest - value) / index.step * index.step :=
    Int.mul_nonneg hquotient hstep.le
  have hinside := Int.ediv_mul_le (r.greatest - value) hstep.ne'
  have hlength : ((r.greatest - value) / index.step + 1) * index.step =
      (r.greatest - value) / index.step * index.step + index.step := by
    rw [Int.add_mul, Int.one_mul]
  -- Every intermediate value stays below the sum of a range and one step, which 128 bits hold.
  simp only [largest] at hhigh hlimit
  simp only [jump?, bind, Option.bind_eq_some_iff, word?_eq_some_iff, Fits]
  refine ⟨_, ⟨?distance, rfl⟩, _, ⟨?whole, rfl⟩, _, ⟨?steps, rfl⟩, _, ⟨?length, rfl⟩, ?sum, ?behind⟩
  case distance => omega
  case behind => rw [behind, Int.tdiv_eq_ediv_of_nonneg hdistance]
  all_goals
    rw [Int.tdiv_eq_ediv_of_nonneg hdistance]
    omega

-- ---------------------------------------------------------------------------
-- Numbers on the way
-- ---------------------------------------------------------------------------

/-- What can be reached from the number in steps of the index. -/
def Ahead (index : Index) (value n : Int) : Prop := ∃ k : Nat, n = value + k * index.step

theorem Ahead.refl (value : Int) : index.Ahead value value := ⟨0, by simp⟩

theorem Ahead.trans (h : index.Ahead a b) (h' : index.Ahead b c) : index.Ahead a c := by
  obtain ⟨k, rfl⟩ := h
  obtain ⟨l, rfl⟩ := h'
  exact ⟨k + l, by push_cast; rw [Int.add_mul, Int.add_assoc]⟩

theorem Ahead.le (hstep : 0 < index.step) (h : index.Ahead a b) : a ≤ b := by
  obtain ⟨k, rfl⟩ := h
  have hforward : 0 ≤ k * index.step := Int.mul_nonneg (Int.natCast_nonneg k) hstep.le
  omega

theorem Ahead.of_le (hstep : 0 < index.step) (ha : index.Ahead value a) (hb : index.Ahead value b)
    (hle : a ≤ b) : index.Ahead a b := by
  obtain ⟨k, rfl⟩ := ha
  obtain ⟨l, rfl⟩ := hb
  have hkl : k ≤ l := by
    have hmul : k * index.step ≤ l * index.step := by omega
    exact_mod_cast Int.le_of_mul_le_mul_right hmul hstep
  obtain ⟨d, rfl⟩ := Nat.exists_eq_add_of_le hkl
  exact ⟨d, by push_cast; rw [Int.add_mul, Int.add_assoc]⟩

/-- A jump lands on the way, and all that it passes over lies in the range. -/
theorem ahead_behind (hstep : 0 < index.step) (hin : r.contains value = true) :
    index.Ahead value (index.behind value r) ∧
      r.greatest < index.behind value r ∧
      ∀ n, index.Ahead value n → n < index.behind value r → r.contains n = true := by
  -- The way from the number is that of an index which starts there.
  let moved := { index with start := value }
  have hmoved : 0 < moved.step := hstep
  have hvalue : moved.gridValue 0 = value := by simp [gridValue, moved]
  have hfirst : r.contains (moved.gridValue 0) = true := by rwa [hvalue]
  obtain ⟨k, -, hland, hgreatest, hcrossed⟩ := exists_behind_eq hmoved hfirst
  rw [hvalue] at hland
  replace hland : index.behind value r = moved.gridValue k := hland
  rw [hland]
  refine ⟨⟨k, rfl⟩, hgreatest, ?_⟩
  rintro n ⟨i, rfl⟩ hlt
  have hi : i < k := lt_of_gridValue_lt hmoved hlt
  exact SkipRange.contains_iff.mpr (hcrossed i (Nat.zero_le i) hi)

theorem landing_spec (hstep : 0 < index.step) (hblocked : index.blocked? value = some r)
    (hjump : index.jump? value r = some next) :
    r ∈ index.skip ∧ r.contains value = true ∧ index.Ahead value next ∧
      ∀ n, index.Ahead value n → n < next → r.contains n = true := by
  have hin := List.find?_some hblocked
  obtain rfl := eq_behind_of_jump? hin hjump
  obtain ⟨hahead, -, hcrossed⟩ := ahead_behind hstep hin
  exact ⟨List.mem_of_find?_eq_some hblocked, hin, hahead, hcrossed⟩

-- ---------------------------------------------------------------------------
-- Whole runs
-- ---------------------------------------------------------------------------

/-- The search crosses a range with each jump that it has. -/
theorem search_skipForward (hstep : 0 < index.step) (hwords : index.InWords)
    (hvalue : Fits 64 value) (hjumps : index.rangesAhead value ≤ jumps) :
    ∃ n ≤ jumps, index.Search n value (index.skipForward jumps value) := by
  induction jumps generalizing value with
  | zero => exact ⟨0, le_rfl, .free (blocked?_eq_none (Nat.le_zero.mp hjumps))⟩
  | succ jumps ih =>
    unfold skipForward
    split
    case h_1 hfree => exact ⟨0, Nat.zero_le _, .free hfree⟩
    case h_2 r hblocked =>
      have hr := List.mem_of_find?_eq_some hblocked
      have hin := List.find?_some hblocked
      have hjump := jump?_eq hstep hwords hr hvalue hin
      have hlt := lt_behind hstep hin
      have hlow := (fits_64_iff.mp hvalue).1
      simp only
      split
      case isTrue hle =>
        have hfits : Fits 64 (index.behind value r) := fits_64_iff.mpr ⟨by omega, hle⟩
        -- The range is behind the landing place and the others ahead of it were ahead before.
        have hfewer := rangesAhead_lt hr hin (ahead_behind hstep hin).2.1
        obtain ⟨n, hn, hrest⟩ := ih hfits (by omega)
        exact ⟨n + 1, by omega, .crossed hblocked hjump hfits hrest⟩
      case isFalse hgt =>
        have hover : ¬Fits 64 (index.behind value r) := fun h => hgt (fits_64_iff.mp h).2
        exact ⟨0, Nat.zero_le _, .stopped hblocked hjump hover⟩

theorem Search.fits (h : index.Search n value found) (hvalue : Fits 64 value) : Fits 64 found := by
  induction h with
  | free | stopped => exact hvalue
  | crossed _ _ hfits _ ih => exact ih hfits

theorem Search.ahead (hstep : 0 < index.step) (h : index.Search n value found) :
    index.Ahead value found := by
  induction h with
  | free | stopped => exact .refl _
  | crossed hblocked hjump _ _ ih =>
    obtain ⟨-, -, hahead, -⟩ := landing_spec hstep hblocked hjump
    exact hahead.trans ih

theorem Search.skipped (hstep : 0 < index.step) (h : index.Search n value found) :
    ∀ m, index.Ahead value m → m < found → ∃ r ∈ index.skip, r.contains m = true := by
  induction h with
  | free | stopped =>
    intro m hm hlt
    exact absurd (hm.le hstep) (by omega)
  | @crossed value r next _ _ hblocked hjump _ _ ih =>
    intro m hm hlt
    obtain ⟨hr, -, hahead, hcrossed⟩ := landing_spec hstep hblocked hjump
    -- A number before the end of the jump lies in the range, one behind it is left to the rest.
    by_cases hnext : m < next
    · exact ⟨r, hr, hcrossed m hm hnext⟩
    · exact ih m (hahead.of_le hstep hm (by omega)) hlt

/-- What the search ends with is free, or a range around it holds all numbers ahead. -/
theorem Search.ends (hstep : 0 < index.step) (h : index.Search n value found)
    (hvalue : Fits 64 value) : index.blocked? found = none ∨
      ∃ r ∈ index.skip, r.contains found = true ∧
        ∀ m, index.Ahead found m → Fits 64 m → r.contains m = true := by
  induction h with
  | free hfree => exact .inl hfree
  | @stopped value r next hblocked hjump hover =>
    obtain ⟨hr, hin, hahead, hcrossed⟩ := landing_spec hstep hblocked hjump
    refine .inr ⟨r, hr, hin, fun m hm hfits => hcrossed m hm ?_⟩
    -- The landing has more than 64 bits, so it lies behind all numbers that have not.
    have hlow := (fits_64_iff.mp hvalue).1
    have hlimit := (fits_64_iff.mp hfits).2
    have hle := hahead.le hstep
    by_contra hnext
    exact hover (fits_64_iff.mpr ⟨by omega, by omega⟩)
  | crossed _ _ hfits _ ih => exact ih hfits

-- ---------------------------------------------------------------------------
-- What is found
-- ---------------------------------------------------------------------------

def freeAhead (index : Index) (value : Int) : Set Int :=
  { n | index.Ahead value n ∧ Fits 64 n ∧ ∀ r ∈ index.skip, ¬r.contains n = true }

theorem Search.mem_freeAhead (hstep : 0 < index.step) (h : index.Search n value found)
    (hvalue : Fits 64 value) (hfree : index.blocked? found = none) :
    found ∈ index.freeAhead value :=
  ⟨h.ahead hstep, h.fits hvalue, by simpa [blocked?, List.find?_eq_none] using hfree⟩

theorem Search.mem_lowerBounds (hstep : 0 < index.step) (h : index.Search n value found) :
    found ∈ lowerBounds (index.freeAhead value) := by
  rintro m ⟨hm, -, hfree⟩
  by_contra hlt
  obtain ⟨r, hr, hin⟩ := h.skipped hstep m hm (by omega)
  exact hfree r hr hin

theorem Search.isLeast (hstep : 0 < index.step) (h : index.Search n value found)
    (hvalue : Fits 64 value) (hsome : (index.freeAhead value).Nonempty) :
    IsLeast (index.freeAhead value) found := by
  refine ⟨?_, h.mem_lowerBounds hstep⟩
  obtain ⟨m, hm, hfits, hfree⟩ := hsome
  have hle := h.mem_lowerBounds hstep ⟨hm, hfits, hfree⟩
  -- A range that holds all numbers ahead would hold the free one.
  rcases h.ends hstep hvalue with hfound | ⟨r, hr, -, hlater⟩
  · exact h.mem_freeAhead hstep hvalue hfound
  · exact absurd (hlater m ((h.ahead hstep).of_le hstep hm hle) hfits) (hfree r hr)

theorem Search.exists_range (hstep : 0 < index.step) (h : index.Search n value found)
    (hvalue : Fits 64 value) (hnone : index.freeAhead value = ∅) :
    ∃ r ∈ index.skip, r.contains found = true ∧
      ∀ m, index.Ahead value m → found ≤ m → Fits 64 m → r.contains m = true := by
  rcases h.ends hstep hvalue with hfound | ⟨r, hr, hin, hlater⟩
  · exact absurd (h.mem_freeAhead hstep hvalue hfound) (hnone ▸ Set.notMem_empty found)
  · exact ⟨r, hr, hin, fun m hm hle => hlater m ((h.ahead hstep).of_le hstep hm hle)⟩

/-- The search ends, after at most as many jumps as there are ranges, and it can end in no other
way. It ends on the way with a number of 64 bits; all numbers before that one are to be skipped. If
there are free numbers on the way it is the least of them, and otherwise it lies in a range that
holds every later one. -/
theorem search_ends (hstep : 0 < index.step) (hwords : index.InWords) (hvalue : Fits 64 value) :
    (∃ jumps ≤ index.skip.length, ∀ n found,
      index.Search n value found ↔ n = jumps ∧ found = index.nextFree value) ∧
    (index.Ahead value (index.nextFree value) ∧ Fits 64 (index.nextFree value) ∧
      ∀ n, index.Ahead value n → n < index.nextFree value →
        ∃ r ∈ index.skip, r.contains n = true) ∧
    ((index.freeAhead value).Nonempty → IsLeast (index.freeAhead value) (index.nextFree value)) ∧
    (index.freeAhead value = ∅ → ∃ r ∈ index.skip, r.contains (index.nextFree value) = true ∧
      ∀ n, index.Ahead value n → index.nextFree value ≤ n → Fits 64 n → r.contains n = true) := by
  have hranges : index.rangesAhead value ≤ index.skip.length := List.countP_le_length
  obtain ⟨jumps, hjumps, hsearch⟩ := search_skipForward hstep hwords hvalue hranges
  replace hsearch : index.Search jumps value (index.nextFree value) := hsearch
  refine ⟨⟨jumps, hjumps, fun n found => ⟨fun h => h.unique hsearch, ?_⟩⟩,
    ⟨hsearch.ahead hstep, hsearch.fits hvalue, hsearch.skipped hstep⟩,
    hsearch.isLeast hstep hvalue, hsearch.exists_range hstep hvalue⟩
  rintro ⟨rfl, rfl⟩
  exact hsearch

/-- Ranges that overlap, touch and stand in no order, one of them up to the limit. -/
def inDisorder : Index := ⟨1, 3, 0, .decimal,
  [.between 12 16, .between 11 5, .between 9223372036854775800 9223372036854775807, .between 2 7],
  none⟩

theorem search_ends_inDisorder :
    0 < inDisorder.step ∧ inDisorder.InWords ∧ Fits 64 2 ∧ Fits 64 9223372036854775802 ∧
      IsLeast (inDisorder.freeAhead 2) 17 ∧
      inDisorder.nextFree 9223372036854775802 = 9223372036854775802 ∧
      ∃ r ∈ inDisorder.skip, r.contains 9223372036854775802 = true ∧
        ∀ n, inDisorder.Ahead 9223372036854775802 n → 9223372036854775802 ≤ n → Fits 64 n →
          r.contains n = true := by
  -- Three jumps from 2 by 8 and 14 to 17; close to the limit there is nothing to find.
  have hstep : 0 < inDisorder.step := by decide
  have hwords : inDisorder.InWords := ⟨by decide, by decide⟩
  have hlow : Fits 64 2 := by decide
  have hhigh : Fits 64 9223372036854775802 := by decide
  refine ⟨hstep, hwords, hlow, hhigh, ?_, by decide, ?_⟩
  · have hfree : (17 : Int) ∈ inDisorder.freeAhead 2 := ⟨⟨5, by decide⟩, by decide, by decide⟩
    exact (search_ends hstep hwords hlow).2.2.1 ⟨17, hfree⟩
  · refine (search_ends hstep hwords hhigh).2.2.2 (Set.eq_empty_iff_forall_notMem.mpr ?_)
    rintro n ⟨hn, hfits, hfree⟩
    have hlast := hfree (.between 9223372036854775800 9223372036854775807) (by decide)
    have hle := hn.le hstep
    have hlimit := (fits_64_iff.mp hfits).2
    exact hlast (SkipRange.contains_iff.mpr ⟨Int.le_trans (by decide) hle, hlimit⟩)

end Relabel.Index
