import Relabel.Proofs.Batch.Stages
import Relabel.Proofs.Naming.NameOnly

/-!
# Chains that look at names only

A chain whose templates ask for nothing but names learns nothing from the disk, so a run of it is a
function of the names: `run_answers_of_nameOnly`.
-/

namespace Relabel

namespace Batch

open Lookups

variable {setting : Setting} {source : MetadataSource} {options : RunOptions}
variable {step : Step} {entries : List Entry}

def Step.target (setting : Setting) (step : Step) (counters : Counters) (isDirectory : Bool)
    (name : Text) : Text × Counters :=
  let (stem, extension) := splitName step.keepExtension isDirectory name
  let (found, counters) := resolution setting step.search step.tokens ⟨name, stem, [], isDirectory⟩
    .none (step.search.replace step.limit step.template stem) counters
  (Text.trim (Path.clean (found.text ++ extension)), counters)

def Step.targets (setting : Setting) (step : Step) : Counters → List (Bool × Text) → List Text
  | _, [] => []
  | counters, (isDirectory, name) :: rest =>
    let (target, counters) := step.target setting counters isDirectory name
    target :: step.targets setting counters rest

private theorem renameOne_of_nameOnly (setting : Setting) (h : step.tokens.NameOnly) (source : MetadataSource) (e : Entry)
    (name : Text) (counters : Counters) :
    ∃ made, renameOne setting source step e name counters =
        pure (made, (step.target setting counters e.isDirectory name).2) ∧
      made.target = (step.target setting counters e.isDirectory name).1 := by
  -- The path of the file has no say in what the variables come to.
  have hpath := resolution_withPath setting step.search h (step.subject e name) .none
    (step.search.replace step.limit step.template (step.subject e name).matched) counters []
  refine ⟨⟨step.subject e name, step.extension e name, (resolution setting step.search step.tokens
    (step.subject e name) .none (step.search.replace step.limit step.template
      (step.subject e name).matched) counters).1⟩, ?_, ?_⟩
  · rw [renameOne, resolve_of_nameOnly _ _ _ h, pure_bind, ← hpath]
    rfl
  · rw [Renaming.target, Renaming.written, ← hpath]
    rfl

private theorem renameAll_of_nameOnly (setting : Setting) (h : step.tokens.NameOnly) (source : MetadataSource)
    (counters : Counters) (work : List (Entry × Text)) :
    ∃ renamings, renameAll setting source step counters work = pure renamings ∧
      renamings.map Renaming.target =
        step.targets setting counters (work.map fun w => (w.1.isDirectory, w.2)) := by
  induction work generalizing counters with
  | nil => exact ⟨[], rfl, rfl⟩
  | cons first rest ih =>
    obtain ⟨e, name⟩ := first
    obtain ⟨made, hone, htarget⟩ := renameOne_of_nameOnly setting h source e name counters
    obtain ⟨others, hrest, htargets⟩ := ih (step.target setting counters e.isDirectory name).2
    refine ⟨made :: others, ?_, ?_⟩
    · rw [renameAll, hone, pure_bind]
      simp only [hrest, pure_bind]
    · simp only [List.map_cons, Step.targets, htarget, htargets]

-- ---------------------------------------------------------------------------
-- Whole chains
-- ---------------------------------------------------------------------------

def NameOnly (link : Link) : Prop :=
  ∀ tokens, Template.tokens link.replacement = .ok tokens → tokens.NameOnly

theorem NameOnly.tokens (h : NameOnly link) (hready : ready options link = .ok step) :
    step.tokens.NameOnly :=
  h _ (tokens_eq_of_readTemplate (ready_eq_ok.mp hready).1)

def chainTargets (setting : Setting) (steps : List Step) (directories : List Bool)
    (names : List Text) : List Text :=
  steps.foldl (fun names step => step.targets setting .fresh (directories.zip names)) names

private theorem runLinks_of_nameOnly (setting : Setting) {links : List (Link × Tokens)}
    {steps : List Step}
    (h : ∀ step ∈ steps, step.tokens.NameOnly)
    (hready : links.map (fun w => prepare options w.1 w.2) = steps.map .ok)
    (source : MetadataSource) (entries : List Entry) (names : List Text) :
    ∃ stages, runLinks setting source options entries names links = pure stages ∧
      (stages.getLast?.elim names Stage.targets) =
        chainTargets setting steps (entries.map (·.isDirectory)) names := by
  -- The names differ from link to link, the batch and with it the directories stay.
  induction links generalizing steps names with
  | nil =>
    obtain rfl : steps = [] := List.map_eq_nil_iff.mp hready.symm
    exact ⟨[], rfl, rfl⟩
  | cons first links ih =>
    cases steps with
    | nil => simp at hready
    | cons step steps =>
      obtain ⟨hstep, hsteps⟩ := List.cons.inj hready
      obtain ⟨hfirst, hothers⟩ := List.forall_mem_cons.mp h
      obtain ⟨renamings, hall, htargets⟩ :=
        renameAll_of_nameOnly setting hfirst source .fresh (entries.zip names)
      obtain ⟨others, hrest, hlast⟩ := ih hothers hsteps (Stage.targets ⟨step, renamings⟩)
      refine ⟨⟨step, renamings⟩ :: others, ?_, ?_⟩
      · have hlift : (liftM (Except.ok step : Except RunError _) : Lookups _) = pure step := rfl
        simp only [runLinks, hstep, hlift, pure_bind, hall, hrest]
      · have hzip : (entries.zip names).map (fun w => (w.1.isDirectory, w.2)) =
            (entries.map (·.isDirectory)).zip names := by
          rw [List.zip_map_left]
          rfl
        rw [chainTargets, List.foldl_cons, ← hzip, ← htargets, List.getLast?_cons]
        refine Eq.trans ?_ hlast
        cases others.getLast? <;> rfl

def outcomeOf (setting : Setting) (steps : List Step) (entries : List Entry) : List Entry :=
  let entries := processed (steps.map (·.tokens)) entries
  renamedTo entries
    (chainTargets setting steps (entries.map (·.isDirectory)) (entries.map (·.source)))

theorem runLinks_of_ready (setting : Setting) {steps : List Step} (hchain : options.chain ≠ [])
    (hnames : ∀ link ∈ options.chain, NameOnly link)
    (hready : options.chain.map (ready options) = steps.map .ok) (source : MetadataSource)
    (entries : List Entry) :
    ∃ stages, runLinks setting source options entries (entries.map (·.source))
          (options.chain.zip (steps.map (·.tokens))) = pure stages ∧
      Record.outcome ⟨entries, stages⟩ = renamedTo entries (chainTargets setting steps
        (entries.map (·.isDirectory)) (entries.map (·.source))) := by
  -- The steps ask for names only, since the links do.
  have hsteps : ∀ step ∈ steps, step.tokens.NameOnly := by
    intro step hstep
    have hmem : Except.ok step ∈ options.chain.map (ready options) :=
      hready ▸ List.mem_map_of_mem hstep
    obtain ⟨link, hlink, hlinkReady⟩ := List.mem_map.mp hmem
    exact (hnames link hlink).tokens hlinkReady
  obtain ⟨stages, hstages, hlast⟩ := runLinks_of_nameOnly setting hsteps
    (map_ready_eq_ok.mpr ⟨hready, rfl⟩).2 source entries (entries.map (·.source))
  refine ⟨stages, hstages, ?_⟩
  have hanswers : (runLinks setting source options entries (entries.map (·.source))
      (options.chain.zip (steps.map (·.tokens)))).Answers [] stages [] := by
    rw [hstages]
    exact answers_pure.mpr ⟨rfl, rfl⟩
  rw [outcome_of_runLinks hready hanswers, if_neg hchain, hlast]

/-- A run that asks for names only succeeds just when all its links can be made ready, and then
nothing but their steps and the batch tells what comes of it. -/
theorem run_answers_of_nameOnly (hsort : options.sort = none) (hchain : options.chain ≠ [])
    (hnames : ∀ link ∈ options.chain, NameOnly link) :
    (run setting source options entries).Answers log out log' ↔
      log = log' ∧ ∃ steps, options.chain.map (ready options) = steps.map .ok ∧
        outcomeOf setting steps entries = out := by
  have hsorted : sortedBy setting.disk options entries = .ok entries := by
    rw [sortedBy, hsort]
  constructor
  · intro hrun
    obtain ⟨⟨ordered, stages⟩, hrecord, rfl⟩ := answers_map.mp hrun
    obtain ⟨sorted, steps, hsorted', hready, hordered, hstages⟩ := record_answers_ready.mp hrecord
    obtain rfl : entries = sorted := Except.ok.inj (hsorted.symm.trans hsorted')
    -- The links run without a question, so their stages are known.
    obtain ⟨stages', hall, houtcome⟩ :=
      runLinks_of_ready setting hchain hnames hready source ordered
    simp only at hstages hordered
    rw [hall, answers_pure] at hstages
    obtain ⟨rfl, rfl⟩ := hstages
    refine ⟨rfl, steps, hready, ?_⟩
    rw [houtcome, outcomeOf, ← hordered]
  · rintro ⟨rfl, steps, hready, rfl⟩
    obtain ⟨stages, hall, houtcome⟩ := runLinks_of_ready setting hchain hnames hready
      source (processed (steps.map (·.tokens)) entries)
    have hstages := answers_pure.mpr ⟨@rfl _ stages, @rfl _ log⟩
    rw [← hall] at hstages
    exact answers_map.mpr ⟨⟨_, stages⟩, record_answers_ready.mpr ⟨entries, steps, hsorted, hready,
      rfl, hstages⟩, houtcome⟩

end Batch

end Relabel
