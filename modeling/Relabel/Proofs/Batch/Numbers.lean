import Relabel.Proofs.Batch.Order
import Relabel.Proofs.Batch.Stages
import Relabel.Proofs.Naming.NameOnly
import Relabel.Proofs.Naming.Values
import Relabel.Proofs.Numbering.Counters

/-!
# The numbers of a run

A file gets from an index the element of the sequence that belongs to its rank: the number of files
before it, in the same link, with the same scope. The rank looks at no counter, so neither another
index nor another link has a say in it.
-/

namespace Relabel.Batch

open Lookups

variable {setting : Setting} {source : MetadataSource} {options : RunOptions}
variable {step : Step} {entries : List Entry}

/-- How many files before a place have the scope that the subject has: all of them where the index
is not scoped, else those whose group matched the same text. -/
def Stage.rank (stage : Stage) (index : Index) (p : Nat) (s : Subject) : Nat :=
  match index.group with
  | none => p
  | some group => (stage.renamings.take p).countP fun earlier =>
      stage.step.search.captured earlier.subject.matched group =
        stage.step.search.captured s.matched group

/-- What the renaming at place `p` owes to the indexes: each has given the number of the file's rank,
and that is the element of the sequence for as long as it has 64 bits. The number stands among the
values that are put into the name. -/
def Stage.NumbersAt (stage : Stage) (p : Nat) (made : Renaming) : Prop :=
  ∀ (slot : Nat) (token : Token) (index : Index),
    (stage.step.tokens.ofKind .index)[slot]? = some token → token.wanted = .index index →
    ∃ n, made.resolution.numbers[slot]? = some n ∧
      (token.text, index.render n) ∈ made.resolution.values ∧
      n = index.given (stage.rank index p made.subject) ∧
      (index.element (stage.rank index p made.subject) ≤ Index.largest →
        n = index.element (stage.rank index p made.subject))

def Step.scopes (step : Step) (work : Entry × Text) (index : Index) : Option Text :=
  index.scope step.search (step.subject work.1 work.2)

theorem renameOne_tracks {after : Counters} (htracks : counters.Tracks step.tokens.indexes seen)
    (h : (renameOne setting source step e name counters).Answers log (made, after) log') :
    after.Tracks step.tokens.indexes (seen ++ [step.scopes (e, name)]) ∧
      made.subject = step.subject e name ∧
      (∃ valueOf, made.resolution.values =
        step.tokens.values valueOf made.resolution.numbers) ∧
      ∀ (slot : Nat) index, step.tokens.indexes[slot]? = some index →
        made.resolution.numbers[slot]? = some (index.given
          (seen.countP fun earlier => earlier index = step.scopes (e, name) index)) := by
  obtain ⟨facts, -, hsubject, -, heq⟩ := renameOne_answers.mp h
  obtain ⟨hresolution, rfl⟩ := Prod.mk.inj heq
  -- Every file takes one number of each index, whatever else it is given.
  refine ⟨htracks.advanceAll _, hsubject, ⟨_, by rw [hresolution]⟩, fun slot index hi => ?_⟩
  rw [hresolution]
  exact htracks.getElem?_advanceAll _ hi

theorem renameAll_numbers {work : List (Entry × Text)} {p : Nat}
    (htracks : counters.Tracks step.tokens.indexes seen)
    (h : (renameAll setting source step counters work).Answers log renamings log')
    (hp : work[p]? = some (e, name)) :
    ∃ made : Renaming, renamings[p]? = some made ∧ made.subject = step.subject e name ∧
      (∃ valueOf, made.resolution.values =
        step.tokens.values valueOf made.resolution.numbers) ∧
      ∀ (slot : Nat) index, step.tokens.indexes[slot]? = some index →
        made.resolution.numbers[slot]? = some (index.given
          ((seen ++ (work.take p).map step.scopes).countP
            fun earlier => earlier index = step.scopes (e, name) index)) := by
  -- What has been seen grows at its end as the work shrinks at its front.
  induction work generalizing counters seen log renamings p with
  | nil => simp at hp
  | cons first rest ih =>
    obtain ⟨made, after, middle, others, hone, hrest, rfl⟩ := renameAll_cons_answers.mp h
    obtain ⟨hafter, hmade⟩ := renameOne_tracks htracks hone
    cases p with
    | zero =>
      obtain rfl : first = (e, name) := by simpa using hp
      exact ⟨made, rfl, by simpa using hmade⟩
    | succ p =>
      rw [List.getElem?_cons_succ] at hp
      obtain ⟨made', hmade', hothers⟩ := ih hafter hrest hp
      refine ⟨made', by simpa using hmade', ?_⟩
      simpa using hothers

theorem map_subject {work : List (Entry × Text)}
    (h : (renameAll setting source step counters work).Answers log renamings log') :
    renamings.map Renaming.subject = work.map fun w => step.subject w.1 w.2 := by
  refine List.ext_getElem? fun p => ?_
  rw [List.getElem?_map, List.getElem?_map]
  cases hp : work[p]? with
  | none =>
    have hlength := length_renamings h
    rw [List.getElem?_eq_none_iff] at hp
    rw [List.getElem?_eq_none (by omega)]
    rfl
  | some w =>
    obtain ⟨made, hmade, hsubject⟩ := subject_getElem? h hp
    simp [hmade, hsubject]

theorem rank_eq {stage : Stage} {work : List (Entry × Text)} {p : Nat} (hp : p < work.length)
    (h : (renameAll setting source stage.step counters work).Answers log stage.renamings log')
    (w : Entry × Text) (index : Index) :
    ((work.take p).map stage.step.scopes).countP
        (fun earlier => earlier index = stage.step.scopes w index) =
      stage.rank index p (stage.step.subject w.1 w.2) := by
  rw [List.countP_map, Stage.rank]
  cases hgroup : index.group with
  | none =>
    have hall : ∀ other ∈ work.take p,
        ((fun earlier => decide (earlier index = stage.step.scopes w index)) ∘
          stage.step.scopes) other = true := by
      intro other _
      simp [Step.scopes, Index.scope, hgroup]
    rw [List.countP_eq_length.mpr hall, List.length_take]
    simpa using hp.le
  | some group =>
    -- The scopes are read off the work, the rank off the renamings; both have the same subjects.
    have hsubjects : (stage.renamings.take p).map Renaming.subject =
        (work.take p).map fun w => stage.step.subject w.1 w.2 := by
      rw [List.map_take, map_subject h, ← List.map_take]
    have hcount := congrArg (List.countP fun s =>
      decide (stage.step.search.captured s.matched group =
        stage.step.search.captured (stage.step.subject w.1 w.2).matched group)) hsubjects
    rw [List.countP_map, List.countP_map] at hcount
    refine Eq.trans (List.countP_congr fun other _ => ?_) hcount.symm
    simp [Step.scopes, Index.scope, hgroup]

/-- In a run that succeeds, every index of every template gives every file the element of its
sequence that belongs to the file's rank, for as long as that has 64 bits; in any case the number
is told by the index and the rank alone. -/
theorem number_of_run (hrun : (run setting source options entries).Answers log out log') :
    ∃ r, (record setting source options entries).Answers log r log' ∧ r.outcome = out ∧
      ∀ (i : Nat) link, options.chain[i]? = some link →
        ∃ stage, r.stages[i]? = some stage ∧
          Template.tokens link.replacement = .ok stage.step.tokens ∧
          Pattern.compile options.mode link.find = .ok stage.step.search ∧
          ∀ (p : Nat) e, r.entries[p]? = some e →
            ∃ name made, (r.namesInto i)[p]? = some name ∧ stage.renamings[p]? = some made ∧
              made.subject = stage.step.subject e name ∧ stage.NumbersAt p made := by
  obtain ⟨r, hrecord, rfl⟩ := answers_map.mp hrun
  refine ⟨r, hrecord, rfl, fun i link hlink => ?_⟩
  obtain ⟨stage, hstage, hran⟩ := record_ran hrecord hlink
  obtain ⟨before, after, hrenamed⟩ := hran.renamed
  refine ⟨stage, hstage, hran.tokens_eq, hran.compile_eq, fun p e he => ?_⟩
  obtain ⟨hlt, -⟩ := List.getElem?_eq_some_iff.mp he
  obtain ⟨name, hname⟩ : ∃ name, (r.namesInto i)[p]? = some name :=
    ⟨_, List.getElem?_eq_getElem (hran.length.symm ▸ hlt)⟩
  have hwork : (r.entries.zip (r.namesInto i))[p]? = some (e, name) :=
    List.getElem?_zip_eq_some.mpr ⟨he, hname⟩
  -- A link begins with fresh counters, which track no file at all.
  obtain ⟨made, hmade, hsubject, ⟨valueOf, hvalues⟩, hnumbers⟩ :=
    renameAll_numbers (Counters.tracks_fresh _) hrenamed hwork
  refine ⟨name, made, hname, hmade, hsubject, fun slot token index hslot hwanted => ?_⟩
  have hn := hnumbers slot index (Tokens.getElem?_indexes hslot hwanted)
  have hzip : p < (r.entries.zip (r.namesInto i)).length := by
    simp [List.length_zip, hran.length, hlt]
  rw [List.nil_append, rank_eq hzip hrenamed, ← hsubject] at hn
  -- An index that stands still would give one number only; extraction has ruled it out.
  have hstep := Tokens.step_pos hran.tokens_eq
    (List.mem_of_mem_filter (List.mem_of_getElem? hslot)) hwanted
  exact ⟨_, hn, hvalues ▸ Tokens.mem_values_of_index hslot hwanted hn, rfl,
    Index.given_eq_element hstep⟩

def oddByLetter : RunOptions where
  chain := [⟨"(.).".toList, "$1-{$1%02d2<3>}".toList⟩]
  mode := ⟨false, false⟩
  limit := 0
  keepExtension := false
  sort := none
  reverse := false

def lettersInTurn : List Entry :=
  ["a1", "b1", "a2"].map fun name => .pending "d".toList name.toList false

theorem run_oddByLetter :
    (run .bare .silent oddByLetter lettersInTurn).Answers []
      [⟨"a1".toList, "a-01".toList, "d".toList, "d/a-01".toList, false, 0, .ok⟩,
        ⟨"b1".toList, "b-01".toList, "d".toList, "d/b-01".toList, false, 1, .ok⟩,
        ⟨"a2".toList, "a-05".toList, "d".toList, "d/a-05".toList, false, 2, .ok⟩] [] := by
  -- The second file with an `a` gets 5, the number behind the one that is skipped.
  rw [run_of_pairwise rfl (by decide)]
  unfold Answers
  decide +kernel

theorem number_of_run_oddByLetter :
    ∃ r, (record .bare .silent oddByLetter lettersInTurn).Answers [] r [] ∧
      r.outcome.map (·.target) = ["a-01".toList, "b-01".toList, "a-05".toList] ∧
      ∀ (i : Nat) link, oddByLetter.chain[i]? = some link →
        ∃ stage, r.stages[i]? = some stage ∧
          Template.tokens link.replacement = .ok stage.step.tokens ∧
          Pattern.compile ⟨false, false⟩ link.find = .ok stage.step.search ∧
          ∀ (p : Nat) e, r.entries[p]? = some e →
            ∃ name made, (r.namesInto i)[p]? = some name ∧ stage.renamings[p]? = some made ∧
              made.subject = stage.step.subject e name ∧ stage.NumbersAt p made := by
  obtain ⟨r, hrecord, hout, hnumbers⟩ := number_of_run run_oddByLetter
  exact ⟨r, hrecord, hout ▸ rfl, hnumbers⟩

end Relabel.Batch
