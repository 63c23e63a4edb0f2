import Relabel.Naming.Value
import Relabel.Proofs.Numbering.Sequence

/-!
# The counters of a link

For every file each index of the template moves on one counter, the one of its scope. Before each
file a counter stands where it stands after as many numbers as files have had its scope
(`Tracks`), so the number that a file gets is told by the files before it and by nothing else.
-/

namespace Relabel.Counters

variable {index : Index}

theorem candidate_advanceAll_of_lt (scope : Index → Option Text) (counters : Counters)
    (indexes : List Index) (h : i < slot) (s : Option Text) :
    (counters.advanceAll scope slot indexes).2.candidate index (i, s) =
      counters.candidate index (i, s) := by
  induction indexes generalizing slot counters with
  | nil => rfl
  | cons first rest ih =>
    have hne : (i, s) ≠ (slot, scope first) := fun heq => by
      have := congrArg Prod.fst heq
      simp at this
      omega
    rw [advanceAll]
    exact (ih _ (by omega)).trans (candidate_advance_of_ne hne ..)

theorem getElem?_advanceAll (scope : Index → Option Text) (counters : Counters)
    {indexes : List Index} (hi : indexes[i]? = some index) (slot : Nat) :
    (counters.advanceAll scope slot indexes).1[i]? =
      some (index.nextFree (counters.candidate index (slot + i, scope index))) := by
  -- The counters of the places in front are moved on first and are not the one in question.
  induction indexes generalizing slot counters i with
  | nil => simp at hi
  | cons first rest ih =>
    cases i with
    | zero =>
      obtain rfl : first = index := by simpa using hi
      rfl
    | succ i =>
      have hne : (slot + (i + 1), scope index) ≠ (slot, scope first) := fun heq => by
        have := congrArg Prod.fst heq
        simp at this
      rw [advanceAll]
      have hrest := ih (counters.advance first (slot, scope first)).2 (by simpa using hi) (slot + 1)
      rw [Nat.add_right_comm, Nat.add_assoc, candidate_advance_of_ne hne] at hrest
      exact hrest

theorem length_advanceAll (scope : Index → Option Text) (counters : Counters)
    (indexes : List Index) (slot : Nat) :
    (counters.advanceAll scope slot indexes).1.length = indexes.length := by
  induction indexes generalizing slot counters with
  | nil => rfl
  | cons first rest ih => exact congrArg (· + 1) (ih ..)

/-- Of the counters of one index only the one of the scope moves on. -/
theorem candidate_advanceAll (scope : Index → Option Text) (counters : Counters)
    {indexes : List Index} (hi : indexes[i]? = some index) (slot : Nat) (s : Option Text) :
    (counters.advanceAll scope slot indexes).2.candidate index (slot + i, s) =
      if scope index = s then
        min (index.nextFree (counters.candidate index (slot + i, s)) + index.step) Index.largest
      else counters.candidate index (slot + i, s) := by
  -- What comes behind leaves the counter alone; what stands in front has other places.
  induction indexes generalizing slot counters i with
  | nil => simp at hi
  | cons first rest ih =>
    rw [advanceAll]
    cases i with
    | zero =>
      obtain rfl : first = index := by simpa using hi
      refine (candidate_advanceAll_of_lt scope _ rest (Nat.lt_succ_self slot) s).trans ?_
      split
      case isTrue hs =>
        subst hs
        exact candidate_advance_self ..
      case isFalse hs =>
        exact candidate_advance_of_ne (fun heq => hs (Prod.mk.inj heq).2.symm) ..
    | succ i =>
      have hne : (slot + (i + 1), s) ≠ (slot, scope first) := fun heq => by
        have := congrArg Prod.fst heq
        simp at this
      have hrest := ih (counters.advance first (slot, scope first)).2 (by simpa using hi) (slot + 1)
      rw [Nat.add_right_comm, Nat.add_assoc, candidate_advance_of_ne hne] at hrest
      exact hrest

/-- Every counter stands where it stands after as many numbers as there were files of its scope
among those `seen`, each told by the scope that it has for every index. -/
def Tracks (counters : Counters) (indexes : List Index) (seen : List (Index → Option Text)) :
    Prop :=
  ∀ (i : Nat) (index : Index), indexes[i]? = some index → ∀ s,
    counters.candidate index (i, s) = index.candidateAfter (seen.countP fun scope => scope index = s)

theorem tracks_fresh (indexes : List Index) : fresh.Tracks indexes [] :=
  fun _ _ _ _ => rfl

variable {counters : Counters} {indexes : List Index} {seen : List (Index → Option Text)}

theorem Tracks.getElem?_advanceAll (h : counters.Tracks indexes seen) (scope : Index → Option Text)
    {i : Nat} (hi : indexes[i]? = some index) :
    (counters.advanceAll scope 0 indexes).1[i]? =
      some (index.given (seen.countP fun earlier => earlier index = scope index)) := by
  rw [Counters.getElem?_advanceAll scope counters hi, Nat.zero_add, h i index hi]
  rfl

theorem Tracks.advanceAll (h : counters.Tracks indexes seen) (scope : Index → Option Text) :
    (counters.advanceAll scope 0 indexes).2.Tracks indexes (seen ++ [scope]) := by
  intro i index hi s
  -- Either the file has the scope, and counter and count both go one on, or both stay.
  have hmoved := candidate_advanceAll scope counters hi 0 s
  rw [Nat.zero_add, h i index hi] at hmoved
  rw [hmoved, List.countP_append, List.countP_singleton]
  by_cases hs : scope index = s
  · simp [hs, Index.candidateAfter]
  · simp [hs]

end Relabel.Counters
