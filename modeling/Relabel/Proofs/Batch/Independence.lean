import Mathlib.Data.List.Perm.Subperm
import Relabel.Proofs.Batch.NameOnly
import Relabel.Proofs.Batch.Sorting
import Relabel.Proofs.Naming.Lookups

/-!
# Files without numbers go their own ways

Numbers are all that files of a batch share. Where no template has an index the counters are never
read, so what a run makes of an entry is what it makes of that entry alone, and a batch succeeds
just when each of its entries does.
-/

namespace Relabel

def Entry.placeless (e : Entry) : Entry := { e with position := 0 }

namespace Batch

open Lookups

variable {setting : Setting} {source : MetadataSource} {options : RunOptions}
variable {step : Step} {entries : List Entry} {names targets : List Text}

-- ---------------------------------------------------------------------------
-- One link
-- ---------------------------------------------------------------------------

/-- What a step makes of a name that no file has come before. -/
def Step.passOn (setting : Setting) (source : MetadataSource) (step : Step) (e : Entry)
    (name : Text) : Except RunError Text :=
  (fun made => made.1.target) <$> (renameOne setting source step e name .fresh).outcome

private theorem renameOne_of_noIndex (h : step.tokens.hasIndex = false) (counters : Counters) :
    renameOne setting source step e name counters =
      (fun made => (made.1, counters)) <$> renameOne setting source step e name .fresh := by
  simp only [renameOne, resolve, resolution, Tokens.indexes_eq_nil h, Counters.advanceAll,
    bind_assoc, pure_bind, map_bind, map_pure]

theorem passOn_of_answers {made : Renaming} {after : Counters} (h : step.tokens.hasIndex = false)
    (hone : (renameOne setting source step e name counters).Answers log (made, after) log') :
    step.passOn setting source e name = .ok made.target ∧ after = counters := by
  -- Neither the counters nor the notes that other files have left are read.
  rw [renameOne_of_noIndex h, answers_map] at hone
  obtain ⟨found, hfound, heq⟩ := hone
  obtain ⟨rfl, rfl⟩ := Prod.mk.inj heq
  have houtcome :=
    ((unread_renameOne setting source step e name .fresh).outcome_eq_ok log).mpr ⟨log', hfound⟩
  exact ⟨map_eq_ok.mpr ⟨found, houtcome, rfl⟩, rfl⟩

theorem exists_answers_of_passOn (h : step.tokens.hasIndex = false)
    (hpass : step.passOn setting source e name = .ok target) (counters : Counters)
    (log : List Lookup) : ∃ made log',
      (renameOne setting source step e name counters).Answers log (made, counters) log' ∧
        made.target = target := by
  obtain ⟨found, hfound, rfl⟩ := map_eq_ok.mp hpass
  obtain ⟨log', hanswers⟩ :=
    ((unread_renameOne setting source step e name .fresh).outcome_eq_ok log).mp hfound
  refine ⟨found.1, log', ?_, rfl⟩
  rw [renameOne_of_noIndex h]
  exact answers_map.mpr ⟨found, hanswers, rfl⟩

private theorem renameAll_of_noIndex (h : step.tokens.hasIndex = false) (counters : Counters)
    (log : List Lookup) {work : List (Entry × Text)} :
    (∃ renamings log', (renameAll setting source step counters work).Answers log renamings log' ∧
        renamings.map Renaming.target = targets) ↔
      work.map (fun w => step.passOn setting source w.1 w.2) = targets.map .ok := by
  -- The notes grow from file to file, the counters stay.
  induction work generalizing log targets with
  | nil => simp [renameAll, eq_comm]
  | cons first rest ih =>
    constructor
    · rintro ⟨renamings, log', hall, rfl⟩
      obtain ⟨made, after, middle, others, hone, hrest, rfl⟩ := renameAll_cons_answers.mp hall
      obtain ⟨hpass, rfl⟩ := passOn_of_answers h hone
      exact List.cons_eq_cons.mpr ⟨hpass, (ih middle).mp ⟨others, log', hrest, rfl⟩⟩
    · intro hmap
      cases targets with
      | nil => simp at hmap
      | cons target targets =>
        obtain ⟨hpass, hrest⟩ := List.cons.inj hmap
        obtain ⟨made, middle, hone, rfl⟩ := exists_answers_of_passOn h hpass counters log
        obtain ⟨others, log', hothers, rfl⟩ := (ih middle).mpr hrest
        exact ⟨made :: others, log', renameAll_cons_answers.mpr
          ⟨made, counters, middle, others, hone, hothers, rfl⟩, rfl⟩

-- ---------------------------------------------------------------------------
-- Whole chains
-- ---------------------------------------------------------------------------

def passThrough (setting : Setting) (source : MetadataSource) :
    List Step → Entry → Text → Except RunError Text
  | [], _, name => .ok name
  | step :: steps, e, name =>
    step.passOn setting source e name >>= passThrough setting source steps e

/-- The links go through the batch one after the other, and each name might as well go through the
links. -/
private theorem runLinks_of_noIndex {links : List (Link × Tokens)} {steps : List Step}
    (hprepared : links.map (fun w => prepare options w.1 w.2) = steps.map .ok)
    (hindex : ∀ step ∈ steps, step.tokens.hasIndex = false) (log : List Lookup)
    (hlength : names.length = entries.length) :
    (∃ stages log', (runLinks setting source options entries names links).Answers log stages log' ∧
        stages.getLast?.elim names Stage.targets = targets) ↔
      (entries.zip names).map (fun w => passThrough setting source steps w.1 w.2) =
        targets.map .ok := by
  induction links generalizing steps names log with
  | nil =>
    obtain rfl : steps = [] := List.map_eq_nil_iff.mp hprepared.symm
    have hnames : (entries.zip names).map (fun w => passThrough setting source [] w.1 w.2) =
        names.map .ok := by
      conv_rhs => rw [← List.map_snd_zip (Nat.le_of_eq hlength), List.map_map]
      rfl
    rw [hnames, List.map_inj_right fun _ _ => Except.ok.inj]
    simp [runLinks]
  | cons first links ih =>
    cases steps with
    | nil => simp at hprepared
    | cons step steps =>
      obtain ⟨hstep, hsteps⟩ := List.cons.inj hprepared
      obtain ⟨hfirst, hothers⟩ := List.forall_mem_cons.mp hindex
      have hlast (renamings : List Renaming) (others : List Stage) :
          (⟨step, renamings⟩ :: others : List Stage).getLast?.elim names Stage.targets =
            others.getLast?.elim (renamings.map Renaming.target) Stage.targets := by
        rw [List.getLast?_cons]
        cases others.getLast? <;> rfl
      have hcount {renamings : List Renaming} {middle : List Lookup}
          (h : (renameAll setting source step .fresh (entries.zip names)).Answers log renamings
            middle) : (renamings.map Renaming.target).length = entries.length := by
        simp [length_renamings h, hlength]
      -- One link for all names and then the others, or all links for one name and then the next.
      refine Iff.trans ?_ (map_bind_eq_ok hlength).symm
      constructor
      · rintro ⟨stages, log', hrun, htargets⟩
        obtain ⟨⟨_, renamings⟩, middle, others, hstage, hrenamed, hrest, rfl⟩ :=
          runLinks_cons_answers.mp hrun
        obtain rfl : step = _ := Except.ok.inj (hstep.symm.trans hstage)
        exact ⟨renamings.map Renaming.target,
          (renameAll_of_noIndex hfirst .fresh log).mp ⟨renamings, middle, hrenamed, rfl⟩,
          (ih hsteps hothers middle (hcount hrenamed)).mp
            ⟨others, log', hrest, hlast renamings others ▸ htargets⟩⟩
      · rintro ⟨middles, hpass, hthrough⟩
        obtain ⟨renamings, middle, hrenamed, rfl⟩ :=
          (renameAll_of_noIndex hfirst .fresh log).mpr hpass
        obtain ⟨others, log', hrest, htargets⟩ :=
          (ih hsteps hothers middle (hcount hrenamed)).mpr hthrough
        exact ⟨⟨step, renamings⟩ :: others, log', runLinks_cons_answers.mpr
          ⟨⟨step, renamings⟩, middle, others, hstep, hrenamed, hrest, rfl⟩,
          (hlast ..).trans htargets⟩

theorem any_hasIndex_of_ready {steps : List Step}
    (hindex : ∀ link ∈ options.chain, link.hasIndex = false)
    (hready : options.chain.map (ready options) = steps.map .ok) :
    (steps.map (·.tokens)).any Tokens.hasIndex = false := by
  rw [any_hasIndex (map_ready_eq_ok.mpr ⟨hready, rfl⟩).1]
  exact List.any_eq_false.mpr fun link hlink => by simp [hindex link hlink]

theorem run_of_noIndex (hindex : ∀ link ∈ options.chain, link.hasIndex = false)
    (log : List Lookup) :
    (∃ log', (run setting source options entries).Answers log out log') ↔
      ∃ (sorted : List Entry) (steps : List Step) (targets : List Text),
        sortedBy setting.disk options entries = .ok sorted ∧
        options.chain.map (ready options) = steps.map .ok ∧
        sorted.map (fun e => passThrough setting source steps e e.source) = targets.map .ok ∧
        (if options.chain = [] then sorted else renamedTo sorted targets) = out := by
  have hlinks {sorted : List Entry} {steps : List Step} {targets : List Text}
      (hready : options.chain.map (ready options) = steps.map .ok) :
      (∃ stages log', (runLinks setting source options sorted (sorted.map (·.source))
          (options.chain.zip (steps.map (·.tokens)))).Answers log stages log' ∧
          stages.getLast?.elim (sorted.map (·.source)) Stage.targets = targets) ↔
        sorted.map (fun e => passThrough setting source steps e e.source) = targets.map .ok := by
    have hsteps : ∀ step ∈ steps, step.tokens.hasIndex = false := by
      simpa using any_hasIndex_of_ready hindex hready
    have hzip : sorted.zip (sorted.map (·.source)) = sorted.map fun e => (e, e.source) := by
      simpa using @List.zip_map' _ _ _ id Entry.source sorted
    rw [runLinks_of_noIndex (map_ready_eq_ok.mpr ⟨hready, rfl⟩).2 hsteps log (by simp), hzip,
      List.map_map]
    rfl
  constructor
  · rintro ⟨log', hrun⟩
    obtain ⟨⟨ordered, stages⟩, hrecord, rfl⟩ := answers_map.mp hrun
    obtain ⟨sorted, steps, hsorted, hready, hordered, hstages⟩ := record_answers_ready.mp hrecord
    -- Without an index the batch stays as it has been sorted.
    simp only [processed, any_hasIndex_of_ready hindex hready, Bool.false_eq_true,
      ↓reduceIte] at hordered hstages
    subst hordered
    exact ⟨ordered, steps, _, hsorted, hready, (hlinks hready).mp ⟨stages, log', hstages, rfl⟩,
      (outcome_of_runLinks hready hstages).symm⟩
  · rintro ⟨sorted, steps, targets, hsorted, hready, htargets, rfl⟩
    obtain ⟨stages, log', hstages, rfl⟩ := (hlinks hready).mpr htargets
    refine ⟨log', answers_map.mpr ⟨⟨sorted, stages⟩, record_answers_ready.mpr
      ⟨sorted, steps, hsorted, hready, ?_, hstages⟩, outcome_of_runLinks hready hstages⟩⟩
    simp only [processed, any_hasIndex_of_ready hindex hready, Bool.false_eq_true, ↓reduceIte]

-- ---------------------------------------------------------------------------
-- Entries alone
-- ---------------------------------------------------------------------------

/-- What comes of an entry in a run on it alone. Where that fails the entry stays as it is. -/
def alone (setting : Setting) (source : MetadataSource) (options : RunOptions) (e : Entry) : Entry :=
  match (run setting source options [e]).outcome with
  | .ok [made] => made
  | _ => e

/-- The entry with the target that the links have come to; without links nothing becomes of it. -/
def settled (options : RunOptions) (e : Entry) (target : Text) : Entry :=
  if options.chain = [] then e else e.renamed 0 target

theorem map_placeless_outcome {targets : List Text} (hlength : targets.length = entries.length) :
    (if options.chain = [] then entries else renamedTo entries targets).map Entry.placeless =
      (entries.zip targets).map fun w => (settled options w.1 w.2).placeless := by
  unfold settled
  split
  · conv_lhs => rw [← List.map_fst_zip (Nat.le_of_eq hlength.symm), List.map_map]
    rfl
  · conv_rhs => rw [← List.zipIdx_map_fst 0 (entries.zip targets)]
    simp only [renamedTo, List.map_map]
    rfl

section Ready

variable {steps : List Step}

theorem alone_answers (hindex : ∀ link ∈ options.chain, link.hasIndex = false)
    (hready : options.chain.map (ready options) = steps.map .ok)
    (hsorted : sortedBy setting.disk options [e] = .ok [e])
    (hpass : passThrough setting source steps e e.source = .ok target) :
    alone setting source options e = settled options e target ∧
      ∀ log, ∃ log', (run setting source options [e]).Answers log [settled options e target] log' := by
  have hrun (log : List Lookup) : ∃ log',
      (run setting source options [e]).Answers log [settled options e target] log' := by
    refine (run_of_noIndex hindex log).mpr ⟨[e], steps, [target], hsorted, hready, ?_, ?_⟩
    · rw [List.map_singleton, hpass, List.map_singleton]
    -- Without links nothing becomes of the entry, and it is settled as it stands.
    · unfold settled
      split <;> rfl
  obtain ⟨log', hanswers⟩ := hrun []
  have houtcome : (run setting source options [e]).outcome = .ok [settled options e target] :=
    congrArg Prod.fst hanswers
  refine ⟨?_, hrun⟩
  rw [alone, houtcome]

theorem exists_run_iff (hindex : ∀ link ∈ options.chain, link.hasIndex = false)
    (hready : options.chain.map (ready options) = steps.map .ok) (log : List Lookup) :
    (∃ out log', (run setting source options entries).Answers log out log') ↔
      ∀ e ∈ entries, sortedBy setting.disk options [e] = .ok [e] ∧
        ∃ target, passThrough setting source steps e e.source = .ok target := by
  simp only [run_of_noIndex hindex log]
  constructor
  · rintro ⟨_, sorted, steps', targets, hsorted, hready', htargets, -⟩ e he
    -- Both runs make the same links ready.
    obtain rfl : steps = steps' :=
      (List.map_inj_right fun _ _ => Except.ok.inj).mp (hready.symm.trans hready')
    refine ⟨exists_sortedBy_iff.mp ⟨sorted, hsorted⟩ e he, ?_⟩
    have hmem : passThrough setting source steps e e.source ∈ targets.map Except.ok :=
      htargets ▸ List.mem_map_of_mem ((perm_of_sortedBy hsorted).mem_iff.mpr he)
    obtain ⟨target, -, htarget⟩ := List.mem_map.mp hmem
    exact ⟨target, htarget.symm⟩
  · intro h
    obtain ⟨sorted, hsorted⟩ := exists_sortedBy_iff.mpr fun e he => (h e he).1
    obtain ⟨targets, htargets⟩ := exists_map_eq_ok fun e he =>
      (h e ((perm_of_sortedBy hsorted).mem_iff.mp he)).2
    exact ⟨_, sorted, steps, targets, hsorted, hready, htargets, rfl⟩

theorem map_placeless_of_run (hindex : ∀ link ∈ options.chain, link.hasIndex = false)
    (hrun : (run setting source options entries).Answers log out log') :
    ∃ ordered : List Entry, ordered.Perm entries ∧
      out.map Entry.placeless =
        ordered.map fun e => (alone setting source options e).placeless := by
  obtain ⟨sorted, steps, targets, hsorted, hready, htargets, rfl⟩ :=
    (run_of_noIndex hindex log).mp ⟨log', hrun⟩
  have hperm := perm_of_sortedBy hsorted
  have hlength : targets.length = sorted.length := by
    simpa using (congrArg List.length htargets).symm
  refine ⟨sorted, hperm, ?_⟩
  rw [map_placeless_outcome hlength]
  -- Each entry is paired with the target that the links have come to for it.
  conv_rhs => rw [← List.map_fst_zip (Nat.le_of_eq hlength.symm), List.map_map]
  refine List.map_congr_left fun w hw => congrArg Entry.placeless ?_
  have hkey := exists_sortedBy_iff.mp ⟨sorted, hsorted⟩ w.1
    (hperm.mem_iff.mp (List.of_mem_zip hw).1)
  exact (alone_answers hindex hready hkey (eq_ok_of_mem_zip htargets hw)).1.symm

end Ready

/-- Where no template has an index, each entry of a batch that a run succeeds on comes out as it
does alone, and from any part of the batch in any order it comes out the same. -/
theorem each_as_alone (hrun : (run setting source options entries).Answers log out log')
    (hindex : ∀ link ∈ options.chain, link.hasIndex = false) :
    (∀ e ∈ entries, ∃ log'',
      (run setting source options [e]).Answers log [alone setting source options e] log'') ∧
    (∃ ordered : List Entry, ordered.Perm entries ∧
      out.map Entry.placeless =
        ordered.map fun e => (alone setting source options e).placeless) ∧
    ∀ part : List Entry, part.Subperm entries →
      ∃ out' log'', (run setting source options part).Answers log out' log'' ∧
        (out'.map Entry.placeless).Subperm (out.map Entry.placeless) := by
  obtain ⟨_, steps, _, -, hready, -⟩ := (run_of_noIndex hindex log).mp ⟨log', hrun⟩
  have heach := (exists_run_iff hindex hready log).mp ⟨out, log', hrun⟩
  obtain ⟨ordered, hordered, hout⟩ := map_placeless_of_run hindex hrun
  -- A part of the batch can be run since each of its entries can be run alone.
  refine ⟨fun e he => ?_, ⟨ordered, hordered, hout⟩, fun part hpart => ?_⟩
  · obtain ⟨hsorted, target, hpass⟩ := heach e he
    obtain ⟨halone, hanswers⟩ := alone_answers hindex hready hsorted hpass
    rw [halone]
    exact hanswers log
  · obtain ⟨out', log'', hpartRun⟩ :=
      (exists_run_iff hindex hready log).mpr fun e he => heach e (hpart.subset he)
    obtain ⟨ordered', hordered', hout'⟩ := map_placeless_of_run hindex hpartRun
    refine ⟨out', log'', hpartRun, ?_⟩
    -- Two orders come in: that of the run on the part and that of the run on all.
    obtain ⟨chosen, hchosen, hsub⟩ :=
      (hordered'.subperm.trans hpart).trans hordered.symm.subperm
    rw [hout, hout']
    exact ⟨_, hchosen.map _, hsub.map _⟩

def columnAndParent :
    { options : RunOptions // ∀ link ∈ options.chain, link.hasIndex = false } where
  val :=
    { chain := [⟨"x".toList, "{csv.1}-{p}".toList⟩]
      mode := ⟨false, false⟩
      limit := 0
      keepExtension := false
      sort := none
      reverse := false }
  property := by decide +kernel

def oneRow : MetadataSource :=
  { MetadataSource.silent with
    column := fun _ path => if path = "d/x".toList then some "one".toList else none }

def twoX : List Entry := ["x", "xy"].map fun name => .pending "d".toList name.toList false

theorem run_columnAndParent :
    (run .bare oneRow columnAndParent twoX).Answers []
      [⟨"x".toList, "one-d".toList, "d".toList, "d/one-d".toList, false, 0, .ok⟩,
        ⟨"xy".toList, "-dy".toList, "d".toList, "d/-dy".toList, false, 1, .ok⟩]
      [⟨.column 1, "d/x".toList⟩, ⟨.column 1, "d/xy".toList⟩] := by
  unfold Answers
  decide +kernel

theorem each_as_alone_columnAndParent :
    ∃ out log, (run .bare oneRow columnAndParent twoX.reverse).Answers [] out log ∧
      (out.map Entry.placeless).Subperm
        ([⟨"x".toList, "one-d".toList, "d".toList, "d/one-d".toList, false, 0, .ok⟩,
          ⟨"xy".toList, "-dy".toList, "d".toList, "d/-dy".toList, false, 1, .ok⟩].map
            Entry.placeless) :=
  -- The other way round the two files get the same names.
  (each_as_alone run_columnAndParent columnAndParent.property).2.2 _ (List.reverse_perm _).subperm

end Batch

end Relabel
