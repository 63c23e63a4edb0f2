import Relabel.Numbering.Index

/-!
# Counters

The running numbers of one link of a chain. An index that is not scoped has one counter; a scoped
one has a counter for every text that its group has had.
-/

namespace Relabel

/-- Which index a counter belongs to, by its place in the template, and its scope if it has one. -/
abbrev CounterKey := Nat × Option Text

/-- The next candidate of every counter that has been used, latest first. -/
structure Counters where
  next : List (CounterKey × Int)
deriving DecidableEq, Repr

namespace Counters

def fresh : Counters := ⟨[]⟩

/-- Where the counter goes on; one that has not been used goes on at the start. -/
def candidate (counters : Counters) (index : Index) (key : CounterKey) : Int :=
  (counters.next.lookup key).getD index.start

def advance (counters : Counters) (index : Index) (key : CounterKey) : Int × Counters :=
  let value := index.nextFree (counters.candidate index key)
  (value, ⟨(key, min (value + index.step) Index.largest) :: counters.next⟩)

theorem candidate_advance_self (counters : Counters) (index : Index) (key : CounterKey) :
    (counters.advance index key).2.candidate index key =
      min ((counters.advance index key).1 + index.step) Index.largest := by
  simp [advance, candidate]

theorem candidate_advance_of_ne {key other : CounterKey} (h : other ≠ key) (counters : Counters)
    (index held : Index) :
    (counters.advance index key).2.candidate held other = counters.candidate held other := by
  simp [advance, candidate, List.lookup_cons, beq_eq_false_iff_ne.2 h]

end Counters

end Relabel
