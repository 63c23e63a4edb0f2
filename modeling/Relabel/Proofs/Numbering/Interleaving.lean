import Relabel.Numbering.Counters
import Relabel.Proofs.Numbering.Sequence

/-!
# Counters asked in turn

Numbers may be asked of many counters in any order. How far a counter has come is told by how many
numbers it has given itself (`StandsAfter`), so each gives its own run, whatever is asked of the
others in between: `numbers_of_interleaving`.
-/

namespace Relabel.Counters

variable {indexAt : Nat → Index} {counters : Counters} {used : CounterKey → Nat}

def answers (indexAt : Nat → Index) (counters : Counters) : List CounterKey → List Int
  | [] => []
  | key :: keys =>
    let (value, counters) := counters.advance (indexAt key.1) key
    value :: counters.answers indexAt keys

/-- Every counter stands where it stands after having given so many numbers; one that has given none
stands at its start, whether or not there has been a place for it. -/
def StandsAfter (indexAt : Nat → Index) (used : CounterKey → Nat) (counters : Counters) : Prop :=
  ∀ key, counters.candidate (indexAt key.1) key = (indexAt key.1).candidateAfter (used key)

theorem standsAfter_fresh (indexAt : Nat → Index) : fresh.StandsAfter indexAt fun _ => 0 :=
  fun _ => rfl

theorem StandsAfter.advance (h : counters.StandsAfter indexAt used) (key : CounterKey) :
    (counters.advance (indexAt key.1) key).2.StandsAfter indexAt
      (Function.update used key (used key + 1)) := by
  intro other
  by_cases hother : other = key
  · subst hother
    rw [candidate_advance_self, Function.update_self]
    show min (Index.nextFree _ (counters.candidate _ other) + _) _ = _
    rw [h other]
    rfl
  · rw [candidate_advance_of_ne hother, Function.update_of_ne hother, h other]

/-- A request is answered by the number of its counter whose turn it is. -/
theorem StandsAfter.answers_eq (h : counters.StandsAfter indexAt used) (keys : List CounterKey) :
    counters.answers indexAt keys =
      keys.mapIdx fun i key => (indexAt key.1).given (used key + (keys.take i).count key) := by
  induction keys generalizing counters used with
  | nil => rfl
  | cons key keys ih =>
    rw [answers, List.mapIdx_cons]
    refine congrArg₂ List.cons ?_ ((ih (h.advance key)).trans ?_)
    · show (indexAt key.1).nextFree (counters.candidate (indexAt key.1) key) = _
      rw [h key]
      rfl
    · -- The first request counts for its own key and for no other.
      refine congrArg (List.mapIdx · keys) (funext fun i => funext fun other => ?_)
      rw [List.take_succ_cons, List.count_cons]
      by_cases hother : other = key
      · subst hother
        rw [Function.update_self, if_pos (beq_self_eq_true other)]
        exact congrArg _ (by omega)
      · rw [Function.update_of_ne hother, if_neg (by simpa using Ne.symm hother), Nat.add_zero]

/-- Each counter gives its own run: what a request is answered depends on how many requests of the
same counter came before it, and on no others. The run is the sequence of the index, ever greater,
for as long as the elements have 64 bits, and it never goes down afterwards. -/
theorem numbers_of_interleaving (hstart : counters.StandsAfter indexAt fun _ => 0)
    (keys : List CounterKey) (hstep : ∀ key ∈ keys, 0 < (indexAt key.1).step)
    (hlimit : ∀ key ∈ keys, (indexAt key.1).start ≤ Index.largest) :
    counters.answers indexAt keys =
      keys.mapIdx (fun i key => (indexAt key.1).given ((keys.take i).count key)) ∧
    ∀ key ∈ keys,
      (∀ k, (indexAt key.1).element k ≤ Index.largest →
        (indexAt key.1).given k = (indexAt key.1).element k) ∧
      (∀ j k, j < k → (indexAt key.1).element k ≤ Index.largest →
        (indexAt key.1).given j < (indexAt key.1).given k) ∧
      ∀ j k, j ≤ k → (indexAt key.1).given j ≤ (indexAt key.1).given k ∧
        (indexAt key.1).given k ≤ Index.largest := by
  refine ⟨by simpa using hstart.answers_eq keys, fun key hkey => ⟨?element, ?ever, ?after⟩⟩
  case element => exact fun k hle => Index.given_eq_element (hstep key hkey) hle
  case ever => exact fun j k hlt hle => Index.given_lt (hstep key hkey) hlt hle
  case after =>
    exact fun j k hle => ⟨Index.given_mono (hstep key hkey) (hlimit key hkey) hle,
      Index.given_le (hstep key hkey) (hlimit key hkey) k⟩

/-- Numbers from 1 without 2 and 3 at the first place, and numbers close to the limit elsewhere. -/
def lowAndHigh : Nat → Index
  | 0 => ⟨1, 1, 0, .decimal, [.between 2 3], none⟩
  | _ + 1 => ⟨9223372036854775803, 3, 0, .decimal, [], none⟩

def twoPlaces : Counters := ⟨[((0, none), 1), ((1, none), 9223372036854775803)]⟩

def mixedKeys : List CounterKey :=
  [(0, none), (7, none), (0, some []), (0, none), (7, none), (7, none), (0, none)]

theorem numbers_of_interleaving_lowAndHigh :
    (twoPlaces.StandsAfter lowAndHigh fun _ => 0) ∧
      fresh.answers lowAndHigh mixedKeys = twoPlaces.answers lowAndHigh mixedKeys ∧
      twoPlaces.answers lowAndHigh mixedKeys =
        [1, 9223372036854775803, 1, 4, 9223372036854775806, 9223372036854775807, 5] := by
  -- It makes no difference how many places have been set up.
  have hstart : twoPlaces.StandsAfter lowAndHigh fun _ => 0 := by
    rintro ⟨place, scope⟩
    rcases place with _ | _ | place <;> cases scope <;> rfl
  have hbounds : ∀ key ∈ mixedKeys,
      0 < (lowAndHigh key.1).step ∧ (lowAndHigh key.1).start ≤ Index.largest := by decide +kernel
  have hrun {counters : Counters} (hstart : counters.StandsAfter lowAndHigh fun _ => 0) :=
    (numbers_of_interleaving hstart mixedKeys (fun key hkey => (hbounds key hkey).1)
      fun key hkey => (hbounds key hkey).2).1
  refine ⟨hstart, (hrun (standsAfter_fresh lowAndHigh)).trans (hrun hstart).symm, ?_⟩
  rw [hrun hstart]
  decide +kernel

end Relabel.Counters
