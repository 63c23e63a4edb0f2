import Mathlib.Data.Nat.Nth
import Relabel.Numbering.Index

/-!
# The numbers of an index

Start, start + step, start + 2 · step and so on, less the numbers in the ranges to be skipped, is
an endless sequence: `element`. What a counter gives is its own run, `given`, and `given_eq_element`
says that the two agree for as long as the element has 64 bits. From there on the limit holds the
run back, but it never goes down: `given_mono`.
-/

namespace Relabel.Index

variable {index : Index}

def gridValue (index : Index) (n : Nat) : Int := index.start + n * index.step

/-- Whether that number lies in no range to be skipped. -/
def IsFree (index : Index) (n : Nat) : Prop := index.blocked? (index.gridValue n) = none

instance : DecidablePred index.IsFree := fun n => by
  unfold IsFree
  infer_instance

/-- The `k`-th number, counted from 0, that is not skipped. -/
noncomputable def element (index : Index) (k : Nat) : Int :=
  index.gridValue (Nat.nth index.IsFree k)

theorem isFree_iff : index.IsFree n ↔
    ∀ r ∈ index.skip, ¬(r.least ≤ index.gridValue n ∧ index.gridValue n ≤ r.greatest) := by
  simp only [IsFree, blocked?, List.find?_eq_none, SkipRange.contains_iff]

theorem not_isFree_of_mem {r : SkipRange} (hr : r ∈ index.skip) (hleast : r.least ≤ index.gridValue n)
    (hgreatest : index.gridValue n ≤ r.greatest) : ¬index.IsFree n :=
  fun h => isFree_iff.mp h r hr ⟨hleast, hgreatest⟩

private theorem gridValue_add (m n : Nat) :
    index.gridValue (m + n) = index.gridValue m + n * index.step := by
  simp only [gridValue, Int.natCast_add, Int.add_mul]
  omega

private theorem gridValue_mono (hstep : 0 < index.step) (h : m ≤ n) :
    index.gridValue m ≤ index.gridValue n := by
  obtain ⟨d, rfl⟩ := Nat.exists_eq_add_of_le h
  have hd : 0 ≤ d * index.step := Int.mul_nonneg (Int.natCast_nonneg d) hstep.le
  rw [gridValue_add]
  omega

theorem lt_of_gridValue_lt (hstep : 0 < index.step) (h : index.gridValue m < index.gridValue n) :
    m < n :=
  Nat.lt_of_not_le fun hle => absurd (gridValue_mono hstep hle) (by omega)

theorem infinite_isFree (hstep : 0 < index.step) : (Set.ofPred index.IsFree).Infinite := by
  -- There are finitely many ranges, so some number lies behind all of them.
  obtain ⟨bound, hbound⟩ : ∃ bound : Int, ∀ r ∈ index.skip, r.greatest < bound := by
    induction index.skip with
    | nil => exact ⟨0, by simp⟩
    | cons r rs ih =>
      obtain ⟨bound, hbound⟩ := ih
      refine ⟨max bound (r.greatest + 1), fun r' hr' => ?_⟩
      rcases List.mem_cons.mp hr' with rfl | hr'
      · omega
      · have := hbound r' hr'
        omega
  refine Set.infinite_of_forall_exists_gt fun n => ?_
  let m := n + 1 + (bound - index.start).toNat
  refine ⟨m, isFree_iff.mpr fun r hr hin => ?_, by omega⟩
  have hr := hbound r hr
  have hm : m * 1 ≤ m * index.step := Int.mul_le_mul_of_nonneg_left hstep (Int.natCast_nonneg m)
  have hvalue : index.gridValue m = index.start + m * index.step := rfl
  omega

-- ---------------------------------------------------------------------------
-- One search for a free number
-- ---------------------------------------------------------------------------

/-- How many ranges are not behind a number yet. -/
def rangesAhead (index : Index) (value : Int) : Nat :=
  index.skip.countP fun r => value ≤ r.greatest

private theorem countP_lt_countP {p q : α → Bool} {l : List α} (h : ∀ x ∈ l, p x → q x) (hx : x ∈ l)
    (hq : q x = true) (hp : p x = false) : l.countP p < l.countP q := by
  induction l with
  | nil => simp at hx
  | cons y ys ih =>
    have hys : ∀ z ∈ ys, p z → q z := fun z hz => h z (List.mem_cons_of_mem _ hz)
    rcases List.mem_cons.mp hx with rfl | hx
    · have := List.countP_mono_left hys
      simp only [List.countP_cons, hp, hq]
      simp
      omega
    · have := ih hys hx
      have := h y List.mem_cons_self
      simp only [List.countP_cons]
      split <;> split <;> simp_all
      omega

theorem rangesAhead_lt (hr : r ∈ index.skip) (hin : r.contains value = true)
    (hbehind : r.greatest < next) : index.rangesAhead next < index.rangesAhead value := by
  have hvalue := (SkipRange.contains_iff.mp hin).2
  refine countP_lt_countP (fun other _ h => ?_) hr (by simpa using hvalue) (by simpa using hbehind)
  simp only [decide_eq_true_eq] at h ⊢
  omega

theorem blocked?_eq_none (h : index.rangesAhead value = 0) : index.blocked? value = none := by
  refine List.find?_eq_none.mpr fun r hr hin => ?_
  have hbehind := List.countP_eq_zero.mp h r hr
  exact hbehind (by simpa using (SkipRange.contains_iff.mp hin).2)

/-- A number that a search may end with: none between it and `m` is free, and if it is not free
itself then no number is up to the limit. -/
structure EndsSearch (index : Index) (m n : Nat) : Prop where
  le : m ≤ n
  least : ∀ i, m ≤ i → i < n → ¬index.IsFree i
  free : index.IsFree n ∨ ∀ i, n ≤ i → index.gridValue i ≤ largest → ¬index.IsFree i

theorem EndsSearch.of_later {m k n : Nat} (hmk : m ≤ k) (h : index.EndsSearch k n)
    (hblocked : ∀ i, m ≤ i → i < k → ¬index.IsFree i) : index.EndsSearch m n where
  le := hmk.trans h.le
  least := by
    intro i hm hn
    by_cases hk : i < k
    · exact hblocked i hm hk
    · exact h.least i (by omega) hn
  free := h.free

theorem exists_behind_eq (hstep : 0 < index.step) (hr : r.contains (index.gridValue m) = true) :
    ∃ k, m < k ∧ index.behind (index.gridValue m) r = index.gridValue k ∧
      r.greatest < index.gridValue k ∧
      ∀ i, m ≤ i → i < k → r.least ≤ index.gridValue i ∧ index.gridValue i ≤ r.greatest := by
  obtain ⟨hleast, hgreatest⟩ := SkipRange.contains_iff.mp hr
  -- The quotient tells how many steps still lie in the range.
  obtain ⟨q, hq⟩ := Int.eq_ofNat_of_zero_le
    (Int.ediv_nonneg (show 0 ≤ r.greatest - index.gridValue m by omega) hstep.le)
  have hlow := Int.ediv_mul_le (r.greatest - index.gridValue m) hstep.ne'
  have hhigh := Int.lt_ediv_add_one_mul_self (r.greatest - index.gridValue m) hstep
  rw [hq] at hlow hhigh
  have hend : index.gridValue (m + (q + 1)) = index.gridValue m + (q + 1 : Nat) * index.step :=
    gridValue_add m (q + 1)
  push_cast at hend
  refine ⟨m + (q + 1), by omega, ?_, by omega, fun i hm hi => ?_⟩
  · rw [behind, hq, hend]
  · have hfirst := gridValue_mono hstep hm
    have hlast := gridValue_mono hstep (show i ≤ m + q by omega)
    rw [gridValue_add m q] at hlast
    omega

theorem endsSearch_skipForward (hstep : 0 < index.step)
    (hjumps : index.rangesAhead (index.gridValue m) ≤ jumps) :
    ∃ n, index.skipForward jumps (index.gridValue m) = index.gridValue n ∧
      index.EndsSearch m n := by
  induction jumps generalizing m with
  | zero =>
    exact ⟨m, rfl, le_rfl, fun i hm hi => by omega,
      .inl (blocked?_eq_none (Nat.le_zero.mp hjumps))⟩
  | succ jumps ih =>
    unfold skipForward
    split
    case h_1 hfree => exact ⟨m, rfl, le_rfl, fun i hm hi => by omega, .inl hfree⟩
    case h_2 r hblocked =>
      have hr := List.mem_of_find?_eq_some hblocked
      have hin := List.find?_some hblocked
      obtain ⟨k, hmk, hnext, hbehind, hcrossed⟩ := exists_behind_eq hstep hin
      have hskipped : ∀ i, m ≤ i → i < k → ¬index.IsFree i := fun i hm hi =>
        not_isFree_of_mem hr (hcrossed i hm hi).1 (hcrossed i hm hi).2
      simp only [hnext]
      split
      case isTrue hle =>
        -- The jumps suffice, as there are fewer ranges ahead.
        have hfewer := rangesAhead_lt hr hin hbehind
        obtain ⟨n, hn, hends⟩ := ih (show index.rangesAhead (index.gridValue k) ≤ jumps by omega)
        exact ⟨n, hn, hends.of_later hmk.le hskipped⟩
      case isFalse hgt =>
        refine ⟨m, rfl, le_rfl, fun i hm hi => by omega, .inr fun i hm hi => ?_⟩
        exact hskipped i hm (lt_of_gridValue_lt hstep (by omega))

/-- The search finds the least free number from `m` on, unless none has 64 bits. -/
theorem endsSearch_nextFree (hstep : 0 < index.step) (m : Nat) :
    ∃ n, index.nextFree (index.gridValue m) = index.gridValue n ∧ index.EndsSearch m n :=
  endsSearch_skipForward hstep List.countP_le_length

-- ---------------------------------------------------------------------------
-- The run of a counter
-- ---------------------------------------------------------------------------

def candidateAfter (index : Index) : Nat → Int
  | 0 => index.start
  | k + 1 => min (index.nextFree (candidateAfter index k) + index.step) largest

/-- The `k`-th number, counted from 0, that a counter gives. -/
def given (index : Index) (k : Nat) : Int := index.nextFree (index.candidateAfter k)

/-- After `k` numbers a counter stands where just `k` free numbers lie behind it, or else the
sequence has left the 64 bits. -/
def OnTrack (index : Index) (k : Nat) : Prop :=
  (∃ m, index.candidateAfter k = index.gridValue m ∧ Nat.count index.IsFree m = k) ∨
    largest < index.element k

theorem element_mono (hstep : 0 < index.step) (h : k ≤ l) : index.element k ≤ index.element l :=
  gridValue_mono hstep ((Nat.nth_le_nth (infinite_isFree hstep)).mpr h)

/-- The search of a counter that is on track ends at the next element, if that has 64 bits. -/
theorem EndsSearch.eq_nth (hstep : 0 < index.step) (hcount : Nat.count index.IsFree m = k)
    (h : index.EndsSearch m n) (hle : index.element k ≤ largest) :
    n = Nat.nth index.IsFree k := by
  have hinf := infinite_isFree hstep
  have hm : m ≤ Nat.nth index.IsFree k := (Nat.count_le_iff_le_nth hinf).mp hcount.le
  have hfree : index.IsFree (Nat.nth index.IsFree k) := Nat.nth_mem_of_infinite hinf k
  -- The search starts at or below the free number of this rank and cannot pass it.
  have hn : n ≤ Nat.nth index.IsFree k := by
    by_contra hlt
    exact h.least _ hm (by omega) hfree
  have hnfree : index.IsFree n := h.free.resolve_right fun hnone => hnone _ hn hle hfree
  have hcountn : Nat.count index.IsFree n = k :=
    Nat.le_antisymm ((Nat.count_le_iff_le_nth hinf).mpr hn)
      (hcount ▸ Nat.count_monotone index.IsFree h.le)
  rw [← hcountn, Nat.nth_count hnfree]

theorem onTrack (hstep : 0 < index.step) (k : Nat) : index.OnTrack k := by
  have hinf := infinite_isFree hstep
  -- A counter leaves the track only where the limit holds it back, and then it is behind for good.
  induction k with
  | zero => exact .inl ⟨0, by simp [candidateAfter, gridValue], Nat.count_zero _⟩
  | succ k ih =>
    rcases ih with ⟨m, hm, hcount⟩ | hover
    · by_cases hle : index.element k ≤ largest
      · obtain ⟨n, hn, hends⟩ := endsSearch_nextFree hstep m
        have hnth := hends.eq_nth hstep hcount hle
        have hnext : index.gridValue (n + 1) = index.gridValue n + index.step := by
          simpa using gridValue_add n 1
        by_cases hfits : index.gridValue (n + 1) ≤ largest
        · refine .inl ⟨n + 1, ?_, ?_⟩
          · rw [candidateAfter, hm, hn]
            omega
          · rw [hnth, Nat.count_succ, if_pos (Nat.nth_mem_of_infinite hinf k),
              Nat.count_nth_of_infinite hinf]
        · have hlater : n + 1 ≤ Nat.nth index.IsFree (k + 1) :=
            hnth ▸ Nat.nth_strictMono hinf (Nat.lt_succ_self k)
          have hmono := gridValue_mono hstep hlater
          exact .inr (show largest < index.gridValue _ by omega)
      · have hmono := element_mono hstep (Nat.le_add_right k 1)
        exact .inr (by omega)
    · exact .inr (hover.trans_le (element_mono hstep (Nat.le_add_right k 1)))

theorem given_eq_element (hstep : 0 < index.step) (hle : index.element k ≤ largest) :
    index.given k = index.element k := by
  rcases onTrack hstep k with ⟨m, hm, hcount⟩ | hover
  · obtain ⟨n, hn, hends⟩ := endsSearch_nextFree hstep m
    rw [given, hm, hn, hends.eq_nth hstep hcount hle]
    rfl
  · omega

theorem element_lt (hstep : 0 < index.step) (h : j < k) : index.element j < index.element k := by
  have hlater : Nat.nth index.IsFree j + 1 ≤ Nat.nth index.IsFree k :=
    Nat.nth_strictMono (infinite_isFree hstep) h
  have hmono := gridValue_mono hstep hlater
  rw [gridValue_add] at hmono
  simp only [element]
  omega

theorem given_lt (hstep : 0 < index.step) (h : j < k) (hle : index.element k ≤ largest) :
    index.given j < index.given k := by
  have hlt := element_lt hstep h
  rw [given_eq_element hstep (hlt.le.trans hle), given_eq_element hstep hle]
  exact hlt

-- ---------------------------------------------------------------------------
-- At the limit
-- ---------------------------------------------------------------------------

theorem lt_behind (hstep : 0 < index.step) (hr : r.contains value = true) :
    value < index.behind value r := by
  have hgreatest := (SkipRange.contains_iff.mp hr).2
  have hquotient : 0 ≤ (r.greatest - value) / index.step :=
    Int.ediv_nonneg (by omega) hstep.le
  have hjump : 0 < ((r.greatest - value) / index.step + 1) * index.step :=
    Int.mul_pos (by omega) hstep
  rw [behind]
  omega

theorem skipForward_bounds (hstep : 0 < index.step) (jumps : Nat) (hle : value ≤ largest) :
    value ≤ index.skipForward jumps value ∧ index.skipForward jumps value ≤ largest := by
  induction jumps generalizing value with
  | zero => exact ⟨le_rfl, hle⟩
  | succ jumps ih =>
    unfold skipForward
    split
    case h_1 => exact ⟨le_rfl, hle⟩
    case h_2 r hblocked =>
      have hin := List.find?_some hblocked
      have hlt := lt_behind hstep hin
      simp only
      split
      case isTrue hnext => exact ⟨hlt.le.trans (ih hnext).1, (ih hnext).2⟩
      case isFalse => exact ⟨le_rfl, hle⟩

theorem candidateAfter_le (hstart : index.start ≤ largest) (k : Nat) :
    index.candidateAfter k ≤ largest := by
  cases k with
  | zero => exact hstart
  | succ k => exact Int.min_le_right _ _

theorem given_le (hstep : 0 < index.step) (hstart : index.start ≤ largest) (k : Nat) :
    index.given k ≤ largest :=
  (skipForward_bounds hstep _ (candidateAfter_le hstart k)).2

/-- No number is less than the one before it, not even where no free number is left. -/
theorem given_mono (hstep : 0 < index.step) (hstart : index.start ≤ largest) (h : j ≤ k) :
    index.given j ≤ index.given k := by
  refine monotone_nat_of_le_succ (fun n => ?_) h
  have hnext := (skipForward_bounds hstep index.skip.length (candidateAfter_le hstart (n + 1))).1
  have hlimit := given_le hstep hstart n
  have hcandidate : index.given n ≤ index.candidateAfter (n + 1) :=
    Int.le_min.mpr ⟨show index.given n ≤ index.given n + index.step by omega, hlimit⟩
  exact hcandidate.trans hnext

end Relabel.Index
