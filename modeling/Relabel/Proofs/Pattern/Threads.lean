import Mathlib.Data.List.Perm.Subperm
import Relabel.Proofs.Pattern.Ways

/-!
# Threads in lock step

A search follows all its threads through the text at once, and an instruction is visited once per
place. What comes of it is what trying one way after the other would find first, as long as each
way comes to an end: `Program.run_eq`.
-/

namespace Relabel

abbrev Ending := Nat × Marks

def behindMarks (marks : Marks) (endings : List Ending) : List Ending :=
  endings.map fun e => (e.1, e.2 ++ marks)

theorem behindMarks_append (marks : Marks) (first second : List Ending) :
    behindMarks marks (first ++ second) = behindMarks marks first ++ behindMarks marks second :=
  List.map_append

theorem behindMarks_behindMarks (marks marks' : Marks) (endings : List Ending) :
    behindMarks marks (behindMarks marks' endings) = behindMarks (marks' ++ marks) endings := by
  simp [behindMarks, List.append_assoc]

theorem behindMarks_nil (endings : List Ending) : behindMarks [] endings = endings := by
  simp [behindMarks]

namespace Program

/-- Where the search that begins at an instruction ends, the preferred ending first, if trying all
ways is over within so many steps. -/
def endings? (p : Program) : Nat → Nat → Cursor → Option (List Ending)
  | 0, _, _ => none
  | n + 1, address, here =>
    match p.instruction? address with
    | none => some []
    | some .accept => some [(here.position, [])]
    | some (.char accepted next) =>
      match here.rest with
      | [] => some []
      | c :: rest =>
        if accepted.accepts c then p.endings? n next (here.advance c rest) else some []
    | some (.look assertion next) =>
      if here.meets assertion then p.endings? n next here else some []
    | some (.mark slot next) =>
      (p.endings? n next here).map (behindMarks [(slot, here.position)])
    | some (.fork first second) =>
      (p.endings? n first here).bind fun preferred =>
        (p.endings? n second here).map (preferred ++ ·)

def Ends (p : Program) (address : Nat) (here : Cursor) (endings : List Ending) : Prop :=
  ∃ n, p.endings? n address here = some endings

variable {p : Program}

theorem endings?_succ {n address : Nat} {here : Cursor} {endings : List Ending}
    (h : p.endings? n address here = some endings) :
    p.endings? (n + 1) address here = some endings := by
  induction n generalizing address here endings with
  | zero => cases h
  | succ n ih =>
    rw [endings?] at h ⊢
    cases hinstruction : p.instruction? address with
    | none => simpa [hinstruction] using h
    | some instruction =>
      rw [hinstruction] at h
      cases instruction with
      | accept => exact h
      | char accepted next =>
        cases hrest : here.rest with
        | nil => simpa [hrest] using h
        | cons c rest =>
          simp only [hrest] at h ⊢
          split
          case isTrue haccepts => exact ih (by simpa [haccepts] using h)
          case isFalse haccepts => simpa [haccepts] using h
      | look assertion next =>
        simp only at h ⊢
        split
        case isTrue hholds => exact ih (by simpa [hholds] using h)
        case isFalse hholds => simpa [hholds] using h
      | mark slot next =>
        obtain ⟨inner, hinner, rfl⟩ := Option.map_eq_some_iff.mp h
        simp only [ih hinner, Option.map_some]
      | fork first second =>
        obtain ⟨preferred, hpreferred, hothers⟩ := Option.bind_eq_some_iff.mp h
        obtain ⟨others, hsecond, rfl⟩ := Option.map_eq_some_iff.mp hothers
        simp only [ih hpreferred, ih hsecond, Option.bind_some, Option.map_some]

theorem endings?_mono {n m address : Nat} {here : Cursor} {endings : List Ending} (hle : n ≤ m)
    (h : p.endings? n address here = some endings) :
    p.endings? m address here = some endings := by
  induction hle with
  | refl => exact h
  | step _ ih => exact endings?_succ ih

theorem Ends.unique {address : Nat} {here : Cursor} {endings endings' : List Ending}
    (h : p.Ends address here endings) (h' : p.Ends address here endings') : endings = endings' := by
  obtain ⟨n, hn⟩ := h
  obtain ⟨m, hm⟩ := h'
  have hboth := endings?_mono (Nat.le_max_left n m) hn
  rw [endings?_mono (Nat.le_max_right n m) hm] at hboth
  exact (Option.some.inj hboth).symm

open Classical in
/-- The endings of a search that begins at an instruction, if trying all ways comes to an end. -/
noncomputable def endings (p : Program) (address : Nat) (here : Cursor) : List Ending :=
  if h : ∃ endings, p.Ends address here endings then choose h else []

theorem Ends.endings_eq {address : Nat} {here : Cursor} {endings : List Ending}
    (h : p.Ends address here endings) : p.endings address here = endings := by
  have hexists : ∃ endings, p.Ends address here endings := ⟨endings, h⟩
  rw [Program.endings, dif_pos hexists]
  exact (Classical.choose_spec hexists).unique h

def Halts (p : Program) (address : Nat) (here : Cursor) : Prop :=
  ∃ endings, p.Ends address here endings

theorem halts_iff {address : Nat} {here : Cursor} :
    p.Halts address here ↔ ∃ n, (p.endings? n address here).isSome := by
  simp only [Halts, Ends, Option.isSome_iff_exists]
  exact exists_comm

-- ---------------------------------------------------------------------------
-- The threads of an instruction
-- ---------------------------------------------------------------------------

/-- All threads that an instruction leads to at a place, as often as it leads to them. -/
def spread (p : Program) (here : Cursor) : Nat → Nat → Marks → List Thread
  | 0, _, _ => []
  | n + 1, address, marks =>
    match p.instruction? address with
    | none => []
    | some (.look assertion next) =>
      if here.meets assertion then p.spread here n next marks else []
    | some (.mark slot next) => p.spread here n next ((slot, here.position) :: marks)
    | some (.fork first second) =>
      p.spread here n first marks ++ p.spread here n second marks
    | some instruction => [⟨instruction, marks⟩]

noncomputable def endingsAt (p : Program) (here : Cursor) : Instruction → List Ending
  | .accept => [(here.position, [])]
  | .char accepted next =>
    match here.rest with
    | [] => []
    | c :: rest => if accepted.accepts c then p.endings next (here.advance c rest) else []
  | _ => []

noncomputable def threadEndings (p : Program) (here : Cursor) (t : Thread) : List Ending :=
  behindMarks t.marks (p.endingsAt here t.instruction)

theorem flatMap_threadEndings {n address : Nat} {here : Cursor} {endings : List Ending}
    (h : p.endings? n address here = some endings) (marks : Marks) :
    (p.spread here n address marks).flatMap (p.threadEndings here) =
      behindMarks marks endings := by
  induction n generalizing address endings marks with
  | zero => cases h
  | succ n ih =>
    rw [endings?] at h
    rw [spread]
    cases hinstruction : p.instruction? address with
    | none =>
      rw [hinstruction] at h
      obtain rfl := Option.some.inj h
      rfl
    | some instruction =>
      rw [hinstruction] at h
      cases instruction with
      | accept =>
        obtain rfl := Option.some.inj h
        exact List.flatMap_singleton ..
      | char accepted next =>
        rw [List.flatMap_singleton, threadEndings, endingsAt]
        -- The thread waits for a character: its endings are those behind the next one.
        refine congrArg (behindMarks marks) ?_
        cases hrest : here.rest with
        | nil => simpa only [hrest, Option.some.injEq] using h
        | cons c rest =>
          simp only [hrest] at h ⊢
          split at h
          case isTrue haccepts => rw [if_pos haccepts, Ends.endings_eq ⟨n, h⟩]
          case isFalse haccepts => rw [if_neg haccepts, Option.some.inj h]
      | look assertion next =>
        simp only at h ⊢
        split at h
        case isTrue hholds =>
          rw [if_pos hholds]
          exact ih h marks
        case isFalse hholds =>
          obtain rfl := Option.some.inj h
          rw [if_neg hholds]
          rfl
      | mark slot next =>
        obtain ⟨inner, hinner, rfl⟩ := Option.map_eq_some_iff.mp h
        rw [behindMarks_behindMarks]
        exact ih hinner _
      | fork first second =>
        obtain ⟨preferred, hpreferred, hothers⟩ := Option.bind_eq_some_iff.mp h
        obtain ⟨others, hsecond, rfl⟩ := Option.map_eq_some_iff.mp hothers
        rw [behindMarks_append, ← ih hpreferred marks, ← ih hsecond marks]
        exact List.flatMap_append

theorem spread_succ {n address : Nat} {here : Cursor} {endings : List Ending}
    (h : p.endings? n address here = some endings) (marks : Marks) :
    p.spread here (n + 1) address marks = p.spread here n address marks := by
  induction n generalizing address endings marks with
  | zero => cases h
  | succ n ih =>
    rw [endings?] at h
    rw [spread, spread]
    cases hinstruction : p.instruction? address with
    | none => rfl
    | some instruction =>
      rw [hinstruction] at h
      cases instruction with
      | accept | char _ _ => rfl
      | look assertion next =>
        simp only at h
        split at h
        case isTrue hholds => simp only [hholds, ih h]
        case isFalse hholds => simp only [hholds]; rfl
      | mark slot next =>
        obtain ⟨inner, hinner, -⟩ := Option.map_eq_some_iff.mp h
        exact ih hinner _
      | fork first second =>
        obtain ⟨preferred, hpreferred, hothers⟩ := Option.bind_eq_some_iff.mp h
        obtain ⟨others, hsecond, -⟩ := Option.map_eq_some_iff.mp hothers
        simp only [ih hpreferred, ih hsecond]

theorem spread_mono {n m address : Nat} {here : Cursor} {endings : List Ending} (hle : n ≤ m)
    (h : p.endings? n address here = some endings) (marks : Marks) :
    p.spread here m address marks = p.spread here n address marks := by
  induction hle with
  | refl => rfl
  | step hle ih => rw [spread_succ (endings?_mono hle h), ih]

theorem map_instruction_spread (here : Cursor) (n address : Nat) (marks marks' : Marks) :
    (p.spread here n address marks).map (·.instruction) =
      (p.spread here n address marks').map (·.instruction) := by
  induction n generalizing address marks marks' with
  | zero => rfl
  | succ n ih =>
    rw [spread, spread]
    cases p.instruction? address with
    | none => rfl
    | some instruction =>
      cases instruction with
      | accept | char _ _ => rfl
      | look assertion next =>
        simp only
        split
        · exact ih ..
        · rfl
      | mark slot next => exact ih ..
      | fork first second =>
        rw [List.map_append, List.map_append, ih first marks marks', ih second marks marks']

/-- A thread of a search that comes to an end goes on to one. -/
theorem halts_of_mem_spread {n address : Nat} {here : Cursor} {marks : Marks}
    (h : (p.endings? n address here).isSome) {accepted : CharClass} {next : Nat} {marks' : Marks}
    (hmem : ⟨.char accepted next, marks'⟩ ∈ p.spread here n address marks) {c : Char} {rest : Text}
    (hrest : here.rest = c :: rest) (haccepts : accepted.accepts c = true) :
    p.Halts next (here.advance c rest) := by
  induction n generalizing address marks with
  | zero => cases h
  | succ n ih =>
    rw [endings?] at h
    rw [spread] at hmem
    cases hinstruction : p.instruction? address with
    | none =>
      rw [hinstruction] at hmem
      cases hmem
    | some instruction =>
      rw [hinstruction] at h hmem
      cases instruction with
      | accept => cases List.mem_singleton.mp hmem
      | char accepted next =>
        cases List.mem_singleton.mp hmem
        simp only [hrest, if_pos haccepts] at h
        exact halts_iff.mpr ⟨n, h⟩
      | look assertion next =>
        simp only at h hmem
        split at hmem
        case isTrue hholds => exact ih (by simpa only [if_pos hholds] using h) hmem
        case isFalse => cases hmem
      -- A thread behind a mark or a fork was reached with one step fewer.
      | mark slot next => exact ih (by simpa using h) hmem
      | fork first second =>
        obtain ⟨endings, hendings⟩ := Option.isSome_iff_exists.mp h
        obtain ⟨preferred, hpreferred, hothers⟩ := Option.bind_eq_some_iff.mp hendings
        obtain ⟨others, hsecond, rfl⟩ := Option.map_eq_some_iff.mp hothers
        rcases List.mem_append.mp hmem with hmem | hmem
        · exact ih (by rw [hpreferred]; rfl) hmem
        · exact ih (by rw [hsecond]; rfl) hmem

-- ---------------------------------------------------------------------------
-- Visiting every instruction once
-- ---------------------------------------------------------------------------

/-- The threads that are kept, and those that are left out because one at the same instruction has
been seen before. -/
inductive Thins : List Instruction → List Thread → List Thread → Prop
  | nil (seen) : Thins seen [] []
  | keep (t) (h : Thins (t.instruction :: seen) full kept) : Thins seen (t :: full) (t :: kept)
  | drop (hseen : t.instruction ∈ seen) (h : Thins seen full kept) : Thins seen (t :: full) kept

variable {here : Cursor} {seen seen' : List Instruction} {full kept full' kept' : List Thread}

namespace Thins

theorem mono (h : Thins seen full kept) (hsubset : seen ⊆ seen') : Thins seen' full kept := by
  induction h generalizing seen' with
  | nil => exact .nil _
  | keep t _ ih => exact .keep t (ih (List.cons_subset_cons _ hsubset))
  | drop hseen _ ih => exact .drop (hsubset hseen) (ih hsubset)

theorem append (h : Thins seen full kept)
    (h' : Thins (kept.map (·.instruction) ++ seen) full' kept') :
    Thins seen (full ++ full') (kept ++ kept') := by
  induction h with
  | nil => exact h'
  | keep t _ ih =>
    refine .keep t (ih (h'.mono ?_))
    rw [List.map_cons, List.cons_append]
    exact List.perm_middle.symm.subset
  | drop hseen _ ih => exact .drop hseen (ih h')

theorem of_seen (h : ∀ t ∈ full, t.instruction ∈ seen) : Thins seen full [] := by
  induction full with
  | nil => exact .nil _
  | cons t full ih =>
    exact .drop (h t List.mem_cons_self) (ih fun t ht => h t (List.mem_cons_of_mem _ ht))

theorem subset (h : Thins seen full kept) : kept ⊆ full := by
  induction h with
  | nil => exact List.Subset.refl _
  | keep t _ ih => exact List.cons_subset_cons _ ih
  | drop _ _ ih => exact List.subset_cons_of_subset _ ih

/-- At every thread's instruction one has been kept or seen before. -/
theorem covers (h : Thins seen full kept) :
    ∀ t ∈ full, t.instruction ∈ kept.map (·.instruction) ++ seen := by
  induction h with
  | nil => exact List.forall_mem_nil _
  | keep t _ ih =>
    rintro t' ht'
    rcases List.mem_cons.mp ht' with rfl | ht'
    · exact List.mem_cons_self
    · exact List.perm_middle.subset (ih t' ht')
  | drop hseen _ ih =>
    rintro t' ht'
    rcases List.mem_cons.mp ht' with rfl | ht'
    · exact List.mem_append_right _ hseen
    · exact ih t' ht'

end Thins

/-- What is left out would have ended nowhere, or behind one that is preferred. -/
theorem Thins.head?_flatMap (h : Thins seen full kept)
    (hdead : ∀ instruction ∈ seen, p.endingsAt here instruction = []) :
    (kept.flatMap (p.threadEndings here)).head? = (full.flatMap (p.threadEndings here)).head? := by
  induction h with
  | nil => rfl
  | keep t _ ih =>
    rw [List.flatMap_cons, List.flatMap_cons, List.head?_append, List.head?_append, threadEndings]
    cases hends : p.endingsAt here t.instruction with
    | cons ending endings => rfl
    | nil =>
      -- A thread without endings gives no head, so its instruction may join the dead ones.
      refine congrArg _ (ih fun instruction hmem => ?_)
      rcases List.mem_cons.mp hmem with rfl | hmem
      · exact hends
      · exact hdead instruction hmem
  | drop hseen _ ih =>
    rw [List.flatMap_cons, threadEndings, hdead _ hseen, ih hdead]
    rfl

/-- All threads that an instruction leads to have been seen. -/
def Done (p : Program) (here : Cursor) (seen : List Instruction) (address : Nat) : Prop :=
  ∃ n, (p.endings? n address here).isSome ∧
    ∀ t ∈ p.spread here n address [], t.instruction ∈ seen

theorem Done.mono (h : p.Done here seen address) (hsubset : seen ⊆ seen') :
    p.Done here seen' address := by
  obtain ⟨n, hhalts, hseen⟩ := h
  exact ⟨n, hhalts, fun t ht => hsubset (hseen t ht)⟩

theorem Done.mem_seen (h : p.Done here seen address) {n : Nat}
    (hn : (p.endings? n address here).isSome) (marks : Marks) :
    ∀ t ∈ p.spread here n address marks, t.instruction ∈ seen := by
  intro t ht
  obtain ⟨m, hm, hseen⟩ := h
  obtain ⟨endings, hendings⟩ := Option.isSome_iff_exists.mp hn
  obtain ⟨endings', hendings'⟩ := Option.isSome_iff_exists.mp hm
  have hsame : (p.spread here n address marks).map (·.instruction) =
      (p.spread here m address []).map (·.instruction) := by
    rw [map_instruction_spread here n address marks [],
      ← spread_mono (Nat.le_max_left n m) hendings, ← spread_mono (Nat.le_max_right n m) hendings']
  obtain ⟨t', ht', heq⟩ := List.mem_map.mp (hsame ▸ List.mem_map_of_mem ht)
  exact heq ▸ hseen t' ht'

/-- What comes of visiting an instruction: the threads it leads to, but for those seen before. -/
structure Visited (p : Program) (here : Cursor) (seen : List Instruction) (visited : List Nat)
    (full : List Thread) (found : List Thread × List Nat) : Prop where
  thins : Thins seen full found.1
  nodup : found.2.Nodup
  more : visited <:+ found.2
  done : ∀ v ∈ found.2, v ∈ visited ∨ p.Done here (found.1.map (·.instruction) ++ seen) v

theorem Visited.entered {address : Nat} {visited : List Nat} {found : List Thread × List Nat}
    (h : p.Visited here seen (address :: visited) (p.spread here n address marks) found)
    (hhalts : (p.endings? n address here).isSome) :
    p.Visited here seen visited (p.spread here n address marks) found := by
  refine ⟨h.thins, h.nodup, (List.suffix_cons address visited).trans h.more, fun v hv => ?_⟩
  rcases h.done v hv with hv | hv
  · rcases List.mem_cons.mp hv with rfl | hv
    -- The address itself: what it spreads to is kept, whatever marks it is spread with.
    · refine .inr ⟨n, hhalts, fun t ht => ?_⟩
      have hmem := List.mem_map_of_mem (f := Thread.instruction) ht
      rw [map_instruction_spread here n v [] marks] at hmem
      obtain ⟨t', ht', heq⟩ := List.mem_map.mp hmem
      exact heq ▸ h.thins.covers t' ht'
    · exact .inl hv
  · exact .inr hv

theorem Visited.append {visited : List Nat} {found found' : List Thread × List Nat}
    (h : p.Visited here seen visited full found)
    (h' : p.Visited here (found.1.map (·.instruction) ++ seen) found.2 full' found') :
    p.Visited here seen visited (full ++ full') (found.1 ++ found'.1, found'.2) := by
  have hsubset : found'.1.map (·.instruction) ++ (found.1.map (·.instruction) ++ seen) ⊆
      (found.1 ++ found'.1).map (·.instruction) ++ seen := by
    rw [List.map_append, List.append_assoc]
    exact (List.perm_append_comm_assoc ..).subset
  refine ⟨h.thins.append h'.thins, h'.nodup, h.more.trans h'.more, fun v hv => ?_⟩
  rcases h'.done v hv with hv | hv
  · exact (h.done v hv).imp_right fun hdone =>
      hdone.mono (List.Subset.trans (List.subset_append_right _ _) hsubset)
  · exact .inr (hv.mono hsubset)

/-- Addresses that have instructions. -/
def inside (p : Program) (visited : List Nat) : List Nat := visited.filter (· < p.code.size)

theorem length_inside_le (h : visited.Nodup) : (p.inside visited).length ≤ p.code.size := by
  have hsubset : p.inside visited ⊆ List.range p.code.size := fun v hv =>
    List.mem_range.mpr (by simpa using (List.mem_filter.mp hv).2)
  simpa [inside] using (List.subperm_of_subset (h.filter _) hsubset).length_le

/-- The state in which a visit begins: each address that has been visited is done, or trying all
ways from it takes more than `n` steps. -/
structure Before (p : Program) (here : Cursor) (seen : List Instruction) (n depth : Nat)
    (visited : List Nat) : Prop where
  nodup : visited.Nodup
  deep : p.code.size < depth + (p.inside visited).length
  done : ∀ v ∈ visited, p.Done here seen v ∨ p.endings? n v here = none

namespace Before

variable {n depth address : Nat} {visited : List Nat}

theorem fewer (h : p.Before here seen (n + 1) depth visited) :
    p.Before here seen n depth visited := by
  refine ⟨h.nodup, h.deep, fun v hv => (h.done v hv).imp_right fun hnone => ?_⟩
  refine Option.eq_none_iff_forall_ne_some.mpr fun endings hsome => ?_
  rw [endings?_succ hsome] at hnone
  cases hnone

theorem depth_ne_zero (h : p.Before here seen n depth visited) : depth ≠ 0 := by
  have hdeep := h.deep
  have hle := length_inside_le (p := p) h.nodup
  omega

theorem enter (h : p.Before here seen n (depth + 1) visited) (hnew : address ∉ visited)
    (hmore : p.endings? n address here = none) (hinside : address < p.code.size) :
    p.Before here seen n depth (address :: visited) := by
  refine ⟨List.nodup_cons.mpr ⟨hnew, h.nodup⟩, ?_, List.forall_mem_cons.mpr ⟨.inr hmore, h.done⟩⟩
  have hdeep := h.deep
  rw [inside, List.filter_cons_of_pos (by simpa using hinside), List.length_cons]
  rw [inside] at hdeep
  omega

theorem goOn (h : p.Before here seen n depth visited) {found : List Thread × List Nat}
    (h' : p.Visited here seen visited full found) :
    p.Before here (found.1.map (·.instruction) ++ seen) n depth found.2 := by
  refine ⟨h'.nodup, ?_, fun v hv => ?_⟩
  · have hle := (h'.more.filter (· < p.code.size)).length_le
    have hdeep := h.deep
    rw [inside] at hdeep ⊢
    omega
  · rcases h'.done v hv with hv | hv
    · exact (h.done v hv).imp_left fun hdone => hdone.mono (List.subset_append_right _ _)
    · exact .inl hv

end Before

theorem reach_visited {n depth address : Nat} {marks : Marks} {visited : List Nat}
    (hhalts : (p.endings? n address here).isSome) (hbefore : p.Before here seen n depth visited) :
    p.Visited here seen visited (p.spread here n address marks)
      (p.reach here.place depth address marks visited) := by
  -- The induction is on the steps that trying all ways takes. An address that takes fewer belongs
  -- to a smaller case; one that takes just so many cannot come back to itself.
  induction n generalizing depth address marks visited seen with
  | zero => cases hhalts
  | succ n ih =>
    cases hearlier : p.endings? n address here with
    | some endings =>
      rw [spread_succ hearlier]
      exact ih (by rw [hearlier]; rfl) hbefore.fewer
    | none =>
    obtain ⟨depth, rfl⟩ := Nat.exists_eq_succ_of_ne_zero hbefore.depth_ne_zero
    rw [reach]
    split
    case isTrue hcontains =>
      have hdone := (hbefore.done address (by simpa using hcontains)).resolve_right fun hnone => by
        rw [hnone] at hhalts
        cases hhalts
      exact ⟨.of_seen (hdone.mem_seen hhalts marks), hbefore.nodup, List.suffix_refl _,
        fun v hv => .inl hv⟩
    case isFalse hcontains =>
      have hnew : address ∉ visited := by simpa using hcontains
      have hnodup : (address :: visited).Nodup := List.nodup_cons.mpr ⟨hnew, hbefore.nodup⟩
      refine Visited.entered ?_ hhalts
      cases hinstruction : p.instruction? address with
      | none =>
        rw [spread, hinstruction]
        exact ⟨.nil _, hnodup, List.suffix_refl _, fun v hv => .inl hv⟩
      | some instruction =>
        have hinside : address < p.code.size := (Array.getElem?_eq_some_iff.mp hinstruction).1
        have hentered := hbefore.fewer.enter hnew hearlier hinside
        rw [spread, hinstruction]
        rw [endings?, hinstruction] at hhalts
        cases instruction with
        | accept | char accepted next =>
          exact ⟨.keep _ (.nil _), hnodup, List.suffix_refl _, fun v hv => .inl hv⟩
        | look assertion next =>
          change (if here.meets assertion then _ else some []).isSome at hhalts
          change p.Visited here seen _ (if here.meets assertion then _ else [])
            (if here.meets assertion then _ else ([], _))
          split
          case isTrue hholds => exact ih (by simpa only [if_pos hholds] using hhalts) hentered
          case isFalse => exact ⟨.nil _, hnodup, List.suffix_refl _, fun v hv => .inl hv⟩
        | mark slot next => exact ih (by simpa using hhalts) hentered
        | fork first second =>
          obtain ⟨endings, hendings⟩ := Option.isSome_iff_exists.mp hhalts
          obtain ⟨preferred, hpreferred, hothers⟩ := Option.bind_eq_some_iff.mp hendings
          obtain ⟨others, hsecond, rfl⟩ := Option.map_eq_some_iff.mp hothers
          have hfirst : p.Visited here seen (address :: visited) (p.spread here n first marks)
              (p.reach here.place depth first marks (address :: visited)) :=
            ih (by rw [hpreferred]; rfl) hentered
          exact hfirst.append (ih (by rw [hsecond]; rfl) (hentered.goOn hfirst))

theorem threadsAt_thins {n : Nat} {arrivals : List (Nat × Marks)} {visited : List Nat}
    (hhalts : ∀ a ∈ arrivals, (p.endings? n a.1 here).isSome) (hnodup : visited.Nodup)
    (hvisited : ∀ v ∈ visited, p.Done here seen v) :
    Thins seen (arrivals.flatMap fun a => p.spread here n a.1 a.2)
      (p.threadsAt here.place arrivals visited) := by
  induction arrivals generalizing visited seen with
  | nil => exact .nil _
  | cons a others ih =>
    -- One arrival after the other, with the addresses the earlier ones have visited.
    have h : p.Visited here seen visited _ (p.reach here.place (p.code.size + 1) a.1 a.2 visited) :=
      reach_visited (hhalts a List.mem_cons_self)
        ⟨hnodup, by omega, fun v hv => .inl (hvisited v hv)⟩
    rw [List.flatMap_cons, threadsAt]
    refine h.thins.append (ih (fun a ha => hhalts a (List.mem_cons_of_mem _ ha)) h.nodup ?_)
    intro v hv
    rcases h.done v hv with hv | hv
    · exact (hvisited v hv).mono (List.subset_append_right _ _)
    · exact hv

theorem exists_steps {arrivals : List (Nat × Marks)} (h : ∀ a ∈ arrivals, p.Halts a.1 here) :
    ∃ n, ∀ a ∈ arrivals, (p.endings? n a.1 here).isSome := by
  induction arrivals with
  | nil => exact ⟨0, List.forall_mem_nil _⟩
  | cons a others ih =>
    obtain ⟨n, hn⟩ := ih fun a ha => h a (List.mem_cons_of_mem _ ha)
    obtain ⟨endings, m, hm⟩ := h a List.mem_cons_self
    -- More steps than needed change nothing, so one number will do for all arrivals.
    refine ⟨max n m, fun a' ha' => ?_⟩
    rcases List.mem_cons.mp ha' with rfl | ha'
    · rw [endings?_mono (Nat.le_max_right n m) hm]
      rfl
    · obtain ⟨endings', hendings'⟩ := Option.isSome_iff_exists.mp (hn a' ha')
      rw [endings?_mono (Nat.le_max_left n m) hendings']
      rfl

noncomputable def endingsFrom (p : Program) (here : Cursor) (arrivals : List (Nat × Marks)) :
    List Ending :=
  arrivals.flatMap fun a => behindMarks a.2 (p.endings a.1 here)

theorem flatMap_spread {n : Nat} {arrivals : List (Nat × Marks)}
    (h : ∀ a ∈ arrivals, (p.endings? n a.1 here).isSome) :
    (arrivals.flatMap fun a => p.spread here n a.1 a.2).flatMap (p.threadEndings here) =
      p.endingsFrom here arrivals := by
  rw [List.flatMap_assoc]
  refine List.flatMap_congr fun a ha => ?_
  obtain ⟨endings, hendings⟩ := Option.isSome_iff_exists.mp (h a ha)
  rw [flatMap_threadEndings hendings, Ends.endings_eq ⟨n, hendings⟩]

/-- The threads at a place find the preferred ending of all ways. -/
theorem head?_threadsAt {arrivals : List (Nat × Marks)} (h : ∀ a ∈ arrivals, p.Halts a.1 here) :
    ((p.threadsAt here.place arrivals []).flatMap (p.threadEndings here)).head? =
      (p.endingsFrom here arrivals).head? := by
  obtain ⟨n, hn⟩ := exists_steps h
  have hthins : Thins [] _ (p.threadsAt here.place arrivals []) :=
    threadsAt_thins hn List.nodup_nil (List.forall_mem_nil _)
  rw [hthins.head?_flatMap (List.forall_mem_nil _), flatMap_spread hn]

theorem halts_of_mem_threadsAt {arrivals : List (Nat × Marks)}
    (h : ∀ a ∈ arrivals, p.Halts a.1 here) {t : Thread}
    (ht : t ∈ p.threadsAt here.place arrivals []) {c : Char} {rest : Text}
    (hrest : here.rest = c :: rest) {a : Nat × Marks} (hstep : t.step? c = some a) :
    p.Halts a.1 (here.advance c rest) := by
  obtain ⟨n, hn⟩ := exists_steps h
  have hthins : Thins [] _ (p.threadsAt here.place arrivals []) :=
    threadsAt_thins hn List.nodup_nil (List.forall_mem_nil _)
  obtain ⟨arrival, harrival, hmem⟩ := List.mem_flatMap.mp (hthins.subset ht)
  obtain ⟨instruction, marks⟩ := t
  cases instruction with
  | char accepted next =>
    simp only [Thread.step?] at hstep
    split at hstep
    · obtain rfl := Option.some.inj hstep
      exact halts_of_mem_spread (hn arrival harrival) hmem hrest ‹_›
    · cases hstep
  | _ => cases hstep

/-- The ending of the first thread that has ended. -/
def endedFirst (threads : List Thread) (position : Nat) : Option Ending :=
  (threads.find? Thread.ended).map fun t => (position, t.marks)

private theorem threadEndings_of_ended {t : Thread} (h : t.ended = true) :
    p.threadEndings here t = [(here.position, t.marks)] := by
  obtain ⟨instruction, marks⟩ := t
  cases instruction with
  | accept => rfl
  | _ => cases h

private theorem threadEndings_of_step {t : Thread} (h : t.ended = false) {c : Char} {rest : Text}
    (hrest : here.rest = c :: rest) :
    p.threadEndings here t = p.endingsFrom (here.advance c rest) (t.step? c).toList := by
  obtain ⟨instruction, marks⟩ := t
  cases instruction with
  | accept => cases h
  | char accepted next =>
    simp only [threadEndings, endingsAt, Thread.step?, hrest]
    split
    · exact (List.flatMap_singleton ..).symm
    · rfl
  | _ => rfl

private theorem head?_at_end (hrest : here.rest = []) (threads : List Thread) :
    (threads.flatMap (p.threadEndings here)).head? = endedFirst threads here.position := by
  induction threads with
  | nil => rfl
  | cons t threads ih =>
    rw [List.flatMap_cons, endedFirst, List.find?_cons]
    cases hended : t.ended with
    | true =>
      rw [threadEndings_of_ended hended]
      rfl
    | false =>
      have hnone : p.threadEndings here t = [] := by
        obtain ⟨instruction, marks⟩ := t
        cases instruction with
        | accept => cases hended
        | char accepted next => simp [threadEndings, endingsAt, hrest, behindMarks]
        | _ => rfl
      rw [hnone]
      exact ih

private theorem head?_before_char {c : Char} {rest : Text} (hrest : here.rest = c :: rest)
    (threads : List Thread) :
    (threads.flatMap (p.threadEndings here)).head? =
      (p.endingsFrom (here.advance c rest)
        ((threads.takeWhile fun t => !t.ended).filterMap (Thread.step? c))).head?.or
        (endedFirst threads here.position) := by
  induction threads with
  | nil => rfl
  | cons t threads ih =>
    rw [List.flatMap_cons, endedFirst, List.find?_cons, List.takeWhile_cons]
    cases hended : t.ended with
    | true =>
      rw [threadEndings_of_ended hended]
      rfl
    | false =>
      -- A thread that has not ended goes on behind the character or dies there.
      have hcons : (t :: threads.takeWhile fun t => !t.ended).filterMap (Thread.step? c) =
          (t.step? c).toList ++ (threads.takeWhile fun t => !t.ended).filterMap (Thread.step? c) := by
        rw [List.filterMap_cons]
        cases t.step? c <;> rfl
      rw [threadEndings_of_step hended hrest, List.head?_append, ih]
      simp only [Bool.not_false, if_true, hcons]
      rw [endingsFrom, endingsFrom, endingsFrom, List.flatMap_append, List.head?_append,
        Option.or_assoc, endedFirst]

/-- The threads that are preferred to the first one that has ended, behind one more character. -/
def goingOn (threads : List Thread) (c : Char) : List (Nat × Marks) :=
  (threads.takeWhile fun t => !t.ended).filterMap (Thread.step? c)

private theorem run_no_arrivals (before : Option Char) (position : Nat) (best : Option Ending)
    (rest : Text) : p.run before position [] best rest = best := by
  cases rest <;> rfl

private theorem run_cons (before : Option Char) (position : Nat) (arrivals : List (Nat × Marks))
    (best : Option Ending) (c : Char) (rest : Text) :
    p.run before position arrivals best (c :: rest) =
      p.run (some c) (position + 1)
        (goingOn (p.threadsAt ⟨before, some c, position⟩ arrivals []) c)
        ((endedFirst (p.threadsAt ⟨before, some c, position⟩ arrivals []) position).or best)
        rest := by
  have hbest (best' : Option Ending) : (best' <|> best) = best'.or best := Option.orElse_eq_or ..
  rw [run, goingOn, endedFirst]
  simp only [hbest]
  split
  case h_1 hnone => rw [hnone, run_no_arrivals]
  case h_2 => rfl

/-- Following all threads at once finds the preferred ending, if every way comes to an end. -/
theorem run_eq {before : Option Char} {position : Nat} {arrivals : List (Nat × Marks)}
    {best : Option Ending} {rest : Text}
    (h : ∀ a ∈ arrivals, p.Halts a.1 ⟨before, position, rest⟩) :
    p.run before position arrivals best rest =
      (p.endingsFrom ⟨before, position, rest⟩ arrivals).head?.or best := by
  induction rest generalizing before position arrivals best with
  | nil =>
    rw [run, ← head?_threadsAt h, head?_at_end rfl]
    exact Option.orElse_eq_or ..
  | cons c rest ih =>
    -- What the run keeps from this place is worth less than anything found behind it.
    rw [run_cons, ← head?_threadsAt h, head?_before_char rfl, Option.or_assoc]
    refine ih fun a ha => ?_
    obtain ⟨t, ht, hstep⟩ := List.mem_filterMap.mp ha
    exact halts_of_mem_threadsAt h (List.takeWhile_subset _ ht) rfl hstep

theorem run_start {before : Option Char} {position : Nat} {rest : Text} {endings : List Ending}
    (h : p.Ends p.start ⟨before, position, rest⟩ endings) :
    p.run before position [(p.start, [])] none rest = endings.head? := by
  rw [run_eq fun a ha => ?_, endingsFrom, List.flatMap_singleton, behindMarks_nil, h.endings_eq,
    Option.or_none]
  obtain rfl := List.mem_singleton.mp ha
  exact ⟨endings, h⟩

end Program

end Relabel
