import Relabel.Batch.Run
import Relabel.Proofs.Batch.Order
import Relabel.Proofs.Checks

/-!
# The stages of a run

A run that succeeds has one stage for every link of its chain, and a stage has one renaming for
every entry of the batch. What holds of all stages is shown here for runs as a whole, so that what
a single link or a single renaming does can be looked at on its own.
-/

namespace Relabel

def Link.hasIndex (link : Link) : Bool :=
  match Template.tokens link.replacement with
  | .ok tokens => tokens.hasIndex
  | .error _ => false

namespace Batch

open Lookups

variable {setting : Setting} {source : MetadataSource} {options : RunOptions}
variable {step : Step} {entries : List Entry}

theorem renameOne_answers {made : Renaming} {counters after : Counters} :
    (renameOne setting source step e name counters).Answers log (made, after) log' ↔
      ∃ facts, (Facts.fetch source e.sourcePath step.tokens).Answers log facts log' ∧
        made.subject = step.subject e name ∧ made.extension = step.extension e name ∧
        (made.resolution, after) =
          resolution setting step.search step.tokens (step.subject e name) facts
            (step.search.replace step.limit step.template (step.subject e name).matched)
            counters := by
  simp only [renameOne, resolve, answers_bind, answers_pure]
  constructor
  · rintro ⟨_, _, ⟨facts, _, hfacts, rfl, rfl⟩, heq, rfl⟩
    obtain ⟨rfl, rfl⟩ := Prod.mk.inj heq
    exact ⟨facts, hfacts, rfl, rfl, rfl⟩
  · rintro ⟨facts, hfacts, hsubject, hextension, hresolution⟩
    refine ⟨_, log', ⟨facts, log', hfacts, hresolution.symm, rfl⟩, ?_, rfl⟩
    rw [← hsubject, ← hextension]

theorem renameAll_cons_answers {rest : List (Entry × Text)} {renamings : List Renaming} :
    (renameAll setting source step counters ((e, name) :: rest)).Answers log renamings log' ↔
      ∃ made after middle others,
        (renameOne setting source step e name counters).Answers log (made, after) middle ∧
        (renameAll setting source step after rest).Answers middle others log' ∧
        renamings = made :: others := by
  simp only [renameAll, answers_bind, answers_pure]
  constructor
  · rintro ⟨⟨made, after⟩, middle, hone, others, _, hrest, rfl, rfl⟩
    exact ⟨made, after, middle, others, hone, hrest, rfl⟩
  · rintro ⟨made, after, middle, others, hone, hrest, rfl⟩
    exact ⟨(made, after), middle, hone, others, log', hrest, rfl, rfl⟩

theorem length_renamings {work : List (Entry × Text)}
    (h : (renameAll setting source step counters work).Answers log renamings log') :
    renamings.length = work.length := by
  induction work generalizing counters log renamings with
  | nil =>
    obtain ⟨rfl, -⟩ := answers_pure.mp h
    rfl
  | cons first rest ih =>
    obtain ⟨made, after, middle, others, -, hrest, rfl⟩ := renameAll_cons_answers.mp h
    simp [ih hrest]

theorem renaming_getElem? {work : List (Entry × Text)} {p : Nat}
    (h : (renameAll setting source step counters work).Answers log renamings log')
    (hp : work[p]? = some (e, name)) :
    ∃ made before after first last, renamings[p]? = some made ∧
      (renameOne setting source step e name before).Answers first (made, after) last := by
  induction work generalizing counters log renamings p with
  | nil => simp at hp
  | cons first rest ih =>
    -- The first file leaves the counters and the notes with which the others begin.
    obtain ⟨made, after, middle, others, hone, hrest, rfl⟩ := renameAll_cons_answers.mp h
    cases p with
    | zero =>
      obtain rfl : first = (e, name) := by simpa using hp
      exact ⟨made, counters, after, log, middle, rfl, hone⟩
    | succ p =>
      rw [List.getElem?_cons_succ] at hp
      simpa using ih hrest hp

theorem subject_getElem? {work : List (Entry × Text)} {p : Nat}
    (h : (renameAll setting source step counters work).Answers log renamings log')
    (hp : work[p]? = some (e, name)) :
    ∃ made : Renaming, renamings[p]? = some made ∧ made.subject = step.subject e name := by
  obtain ⟨made, before, after, first, last, hmade, hone⟩ := renaming_getElem? h hp
  obtain ⟨-, -, hsubject, -, -⟩ := renameOne_answers.mp hone
  exact ⟨made, hmade, hsubject⟩

/-- The renaming is what a link makes of an entry by the name that it is handed: the find pattern
and the template go to the part of the name that is not kept out, and the rest is kept. What has
been learnt about the file and counted before it is left open. -/
structure Renaming.MadeBy (setting : Setting) (step : Step) (e : Entry) (name : Text)
    (made : Renaming) : Prop where
  subject : made.subject = step.subject e name
  extension : made.extension = step.extension e name
  resolution : ∃ facts counters, made.resolution =
    (Relabel.resolution setting step.search step.tokens made.subject facts
      (step.search.replace step.limit step.template made.subject.matched) counters).1

theorem madeBy_of_renameOne {made : Renaming} {after : Counters}
    (h : (renameOne setting source step e name counters).Answers log (made, after) log') :
    made.MadeBy setting step e name := by
  obtain ⟨facts, -, hsubject, hextension, hresolution⟩ := renameOne_answers.mp h
  refine ⟨hsubject, hextension, facts, counters, ?_⟩
  rw [hsubject, ← hresolution]

theorem splitName_append (keepExtension isDirectory : Bool) (name : Text) :
    (splitName keepExtension isDirectory name).1 ++ (splitName keepExtension isDirectory name).2 =
      name := by
  unfold splitName
  split
  · exact Path.stem_append_extension name
  · exact List.append_nil name

theorem Renaming.MadeBy.matched_append {made : Renaming} (h : made.MadeBy setting step e name) :
    made.subject.matched ++ made.extension = name := by
  rw [h.subject, h.extension]
  exact splitName_append ..

/-- The stage that a link of a run has left behind: the link was made ready, and then it has gone
through the whole batch, by the names that it was handed, with counters of its own. -/
structure Stage.Ran (setting : Setting) (source : MetadataSource) (options : RunOptions)
    (entries : List Entry) (names : List Text) (link : Link) (stage : Stage) : Prop where
  template : readTemplate link = .ok stage.step.tokens
  ready : prepare options link stage.step.tokens = .ok stage.step
  length : names.length = entries.length
  renamed : ∃ log log', (renameAll setting source stage.step .fresh (entries.zip names)).Answers log
    stage.renamings log'

theorem prepare_eq_ok : prepare options link tokens = .ok step ↔
    ∃ search, Pattern.compile options.mode link.find = .ok search ∧
      step = ⟨search, tokens, Template.protect link.replacement tokens, options.limit,
        options.keepExtension⟩ := by
  unfold prepare
  split
  case h_1 hsearch => simp [hsearch]
  case h_2 hsearch => simp [hsearch, eq_comm]

theorem prepare_tokens (h : prepare options link tokens = .ok step) : step.tokens = tokens := by
  obtain ⟨_, -, rfl⟩ := prepare_eq_ok.mp h
  rfl

theorem tokens_eq_of_readTemplate (h : readTemplate link = .ok tokens) :
    Template.tokens link.replacement = .ok tokens := by
  unfold readTemplate at h
  cases htokens : Template.tokens link.replacement with
  | error cause =>
    rw [htokens] at h
    cases h
  | ok found =>
    rw [htokens] at h
    obtain rfl := Except.ok.inj h
    rfl

def ready (options : RunOptions) (link : Link) : Except RunError Step := do
  prepare options link (← readTemplate link)

theorem ready_eq_ok : ready options link = .ok step ↔
    readTemplate link = .ok step.tokens ∧ prepare options link step.tokens = .ok step := by
  rw [ready, bind_eq_ok]
  constructor
  · rintro ⟨tokens, htokens, hstep⟩
    obtain rfl := prepare_tokens hstep
    exact ⟨htokens, hstep⟩
  · rintro ⟨htokens, hstep⟩
    exact ⟨_, htokens, hstep⟩

/-- The links are made ready just when their templates can be read first and then they can be
prepared. -/
theorem map_ready_eq_ok {chain : Chain} {tokens : List Tokens} {steps : List Step} :
    chain.map readTemplate = tokens.map .ok ∧
        (chain.zip tokens).map (fun w => prepare options w.1 w.2) = steps.map .ok ↔
      chain.map (ready options) = steps.map .ok ∧ tokens = steps.map (·.tokens) := by
  induction chain generalizing tokens steps with
  | nil => cases tokens <;> cases steps <;> simp
  | cons link chain ih =>
    cases tokens with
    | nil => cases steps <;> simp
    | cons first tokens =>
      cases steps with
      | nil => simp
      | cons step steps =>
        simp only [List.map_cons, List.zip_cons_cons, List.cons.injEq, ready_eq_ok]
        constructor
        · rintro ⟨⟨hread, hreads⟩, hstep, hsteps⟩
          -- A step keeps the variables of its link, so these cannot be others.
          obtain rfl := prepare_tokens hstep
          obtain ⟨hready, htokens⟩ := ih.mp ⟨hreads, hsteps⟩
          exact ⟨⟨⟨hread, hstep⟩, hready⟩, rfl, htokens⟩
        · rintro ⟨⟨⟨hread, hstep⟩, hready⟩, rfl, htokens⟩
          obtain ⟨hreads, hsteps⟩ := ih.mpr ⟨hready, htokens⟩
          exact ⟨⟨hread, hreads⟩, hstep, hsteps⟩

theorem hasIndex_of_readTemplate (h : readTemplate link = .ok tokens) :
    link.hasIndex = tokens.hasIndex := by
  rw [Link.hasIndex, tokens_eq_of_readTemplate h]

theorem any_hasIndex {chain : Chain} {tokens : List Tokens}
    (h : chain.map readTemplate = tokens.map .ok) :
    tokens.any Tokens.hasIndex = chain.any Link.hasIndex := by
  induction chain generalizing tokens with
  | nil =>
    obtain rfl : tokens = [] := List.map_eq_nil_iff.mp h.symm
    rfl
  | cons link chain ih =>
    cases tokens with
    | nil => simp at h
    | cons first tokens =>
      obtain ⟨hlink, hchain⟩ := List.cons.inj h
      rw [List.any_cons, List.any_cons, hasIndex_of_readTemplate hlink, ih hchain]

theorem Stage.Ran.tokens_eq {stage : Stage}
    (h : stage.Ran setting source options entries names link) :
    Template.tokens link.replacement = .ok stage.step.tokens :=
  tokens_eq_of_readTemplate h.template

theorem Stage.Ran.compile_eq {stage : Stage}
    (h : stage.Ran setting source options entries names link) :
    Pattern.compile options.mode link.find = .ok stage.step.search := by
  obtain ⟨search, hsearch, hstep⟩ := prepare_eq_ok.mp h.ready
  rw [hstep, hsearch]

theorem Stage.Ran.keepExtension_eq {stage : Stage}
    (h : stage.Ran setting source options entries names link) :
    stage.step.keepExtension = options.keepExtension := by
  obtain ⟨_, -, hstep⟩ := prepare_eq_ok.mp h.ready
  rw [hstep]

/-- The names that go into the link at a place: those that the batch starts with, and from then on
those that the link before has handed on. -/
def namesInto (names : List Text) (stages : List Stage) : Nat → List Text
  | 0 => names
  | i + 1 => stages[i]?.elim [] Stage.targets

theorem runLinks_cons_answers {stages : List Stage} {links : List (Link × Tokens)} :
    (runLinks setting source options entries names ((link, tokens) :: links)).Answers log stages
        log' ↔
      ∃ stage middle others, prepare options link tokens = .ok stage.step ∧
        (renameAll setting source stage.step .fresh (entries.zip names)).Answers log
          stage.renamings middle ∧
        (runLinks setting source options entries stage.targets links).Answers middle others log' ∧
        stages = stage :: others := by
  simp only [runLinks, answers_bind, answers_pure, answers_lift]
  constructor
  · rintro ⟨step, _, ⟨hstep, rfl⟩, renamings, middle, hrenamed, others, _, hothers, rfl, rfl⟩
    exact ⟨⟨step, renamings⟩, middle, others, hstep, hrenamed, hothers, rfl⟩
  · rintro ⟨stage, middle, others, hstep, hrenamed, hothers, rfl⟩
    exact ⟨stage.step, log, ⟨hstep, rfl⟩, stage.renamings, middle, hrenamed, others, log', hothers,
      rfl, rfl⟩

theorem length_stages {links : List (Link × Tokens)}
    (h : (runLinks setting source options entries names links).Answers log stages log') :
    stages.length = links.length := by
  induction links generalizing names log stages with
  | nil =>
    obtain ⟨rfl, -⟩ := answers_pure.mp h
    rfl
  | cons first links ih =>
    obtain ⟨stage, middle, others, -, -, hothers, rfl⟩ := runLinks_cons_answers.mp h
    simp [ih hothers]

theorem prepared_of_answers {links : List (Link × Tokens)}
    (h : (runLinks setting source options entries names links).Answers log stages log') :
    links.map (fun w => prepare options w.1 w.2) = (stages.map (·.step)).map .ok := by
  induction links generalizing names log stages with
  | nil =>
    obtain ⟨rfl, -⟩ := answers_pure.mp h
    rfl
  | cons first links ih =>
    obtain ⟨stage, middle, others, hstep, -, hothers, rfl⟩ := runLinks_cons_answers.mp h
    simp only [List.map_cons, hstep, ih hothers]

theorem ran_getElem? {links : List (Link × Tokens)} {i : Nat}
    (h : (runLinks setting source options entries names links).Answers log stages log')
    (hnames : names.length = entries.length)
    (hread : ∀ work ∈ links, readTemplate work.1 = .ok work.2)
    (hi : links[i]? = some (link, tokens)) :
    ∃ stage : Stage, stages[i]? = some stage ∧
      stage.Ran setting source options entries (namesInto names stages i) link := by
  induction links generalizing names log stages i with
  | nil => simp at hi
  | cons first links ih =>
    obtain ⟨stage, middle, others, hstep, hrenamed, hothers, rfl⟩ := runLinks_cons_answers.mp h
    cases i with
    | zero =>
      obtain rfl : first = (link, tokens) := by simpa using hi
      have htokens := prepare_tokens hstep
      exact ⟨stage, rfl, htokens ▸ hread _ List.mem_cons_self, htokens ▸ hstep, hnames,
        log, middle, hrenamed⟩
    | succ i =>
      -- The next link starts from the names that this one hands on, again one for each entry.
      have hlength : stage.targets.length = entries.length := by
        simp [Stage.targets, length_renamings hrenamed, hnames]
      rw [List.getElem?_cons_succ] at hi
      obtain ⟨stage', hstage', hran⟩ := ih hothers hlength
        (fun work hwork => hread work (List.mem_cons_of_mem _ hwork)) hi
      refine ⟨stage', by simpa using hstage', ?_⟩
      have hinto : namesInto names (stage :: others) (i + 1) =
          namesInto stage.targets others i := by
        cases i <;> simp [namesInto]
      rw [hinto]
      exact hran

def Record.namesInto (r : Record) (i : Nat) : List Text :=
  Batch.namesInto (r.entries.map (·.source)) r.stages i

def processed (tokens : List Tokens) (entries : List Entry) : List Entry :=
  if tokens.any Tokens.hasIndex then parentsFirst entries else entries

theorem record_answers :
    (record setting source options entries).Answers log r log' ↔
      ∃ sorted tokens, sortedBy setting.disk options entries = .ok sorted ∧
        options.chain.map readTemplate = tokens.map .ok ∧
        r.entries = processed tokens sorted ∧
        (runLinks setting source options r.entries (r.entries.map (·.source))
          (options.chain.zip tokens)).Answers log r.stages log' := by
  simp only [record, answers_bind, answers_pure, answers_lift, answers_mapM_lift]
  constructor
  · rintro ⟨sorted, _, ⟨hsorted, rfl⟩, tokens, _, ⟨htokens, rfl⟩, stages, _, hstages, rfl, rfl⟩
    exact ⟨sorted, tokens, hsorted, htokens, rfl, hstages⟩
  · rintro ⟨sorted, tokens, hsorted, htokens, hentries, hstages⟩
    refine ⟨sorted, log, ⟨hsorted, rfl⟩, tokens, log, ⟨htokens, rfl⟩, r.stages, log', ?_, ?_, rfl⟩
    · rw [← processed, ← hentries]
      exact hstages
    · rw [← processed, ← hentries]

/-- A run succeeds when the batch can be sorted, the links can be made ready and then all of them
can be run. -/
theorem record_answers_ready :
    (record setting source options entries).Answers log r log' ↔
      ∃ (sorted : List Entry) (steps : List Step),
        sortedBy setting.disk options entries = .ok sorted ∧
        options.chain.map (ready options) = steps.map .ok ∧
        r.entries = processed (steps.map (·.tokens)) sorted ∧
        (runLinks setting source options r.entries (r.entries.map (·.source))
          (options.chain.zip (steps.map (·.tokens)))).Answers log r.stages log' := by
  rw [record_answers]
  constructor
  · rintro ⟨sorted, tokens, hsorted, htokens, hentries, hstages⟩
    -- The stages hold the steps, and the steps hold the tokens that were read before.
    obtain ⟨hready, rfl⟩ := map_ready_eq_ok.mp ⟨htokens, prepared_of_answers hstages⟩
    exact ⟨sorted, _, hsorted, hready, hentries, hstages⟩
  · rintro ⟨sorted, steps, hsorted, hready, hentries, hstages⟩
    exact ⟨sorted, _, hsorted, (map_ready_eq_ok.mpr ⟨hready, rfl⟩).1, hentries, hstages⟩

theorem run_of_sorted {sorted : List Entry}
    (h : sortedBy setting.disk options entries = .ok sorted) :
    run setting source options entries = (do
      let tokens ← options.chain.mapM fun link => (readTemplate link : Lookups Tokens)
      let ordered := processed tokens sorted
      let stages ← runLinks setting source options ordered (ordered.map (·.source))
        (options.chain.zip tokens)
      return Record.outcome ⟨ordered, stages⟩) := by
  have hlift : (liftM (Except.ok sorted : Except RunError _) : Lookups _) = pure sorted := rfl
  simp only [run, record, h, hlift, pure_bind, processed, map_bind, map_pure]

theorem run_of_pairwise (hsort : options.sort = none)
    (h : entries.Pairwise (Entry.mayPrecede · ·)) :
    run setting source options entries = (do
      let tokens ← options.chain.mapM fun link => (readTemplate link : Lookups Tokens)
      let stages ← runLinks setting source options entries (entries.map (·.source))
        (options.chain.zip tokens)
      return Record.outcome ⟨entries, stages⟩) := by
  have hsorted : sortedBy setting.disk options entries = .ok entries := by
    rw [sortedBy, hsort]
  simp only [run_of_sorted hsorted, processed, parentsFirst_of_pairwise h, ite_self]

theorem length_of_readTemplates {chain : Chain} {tokens : List Tokens}
    (h : chain.map readTemplate = tokens.map .ok) : chain.length = tokens.length := by
  simpa using congrArg List.length h

theorem length_record_stages
    (h : (record setting source options entries).Answers log r log') :
    r.stages.length = options.chain.length := by
  obtain ⟨sorted, tokens, -, htokens, -, hstages⟩ := record_answers.mp h
  have hlength := length_of_readTemplates htokens
  simp [length_stages hstages, hlength]

theorem record_ran {i : Nat}
    (h : (record setting source options entries).Answers log r log')
    (hi : options.chain[i]? = some link) :
    ∃ stage : Stage, r.stages[i]? = some stage ∧
      stage.Ran setting source options r.entries (r.namesInto i) link := by
  obtain ⟨sorted, tokens, -, htokens, -, hstages⟩ := record_answers.mp h
  have hlength := length_of_readTemplates htokens
  obtain ⟨hlt, -⟩ := List.getElem?_eq_some_iff.mp hi
  obtain ⟨found, hfound⟩ : ∃ found, tokens[i]? = some found :=
    ⟨_, List.getElem?_eq_getElem (hlength ▸ hlt)⟩
  have hzip : (options.chain.zip tokens)[i]? = some (link, found) :=
    List.getElem?_zip_eq_some.mpr ⟨hi, hfound⟩
  exact ran_getElem? hstages (by simp) (fun work => eq_ok_of_mem_zip htokens) hzip

-- ---------------------------------------------------------------------------
-- The names of one entry
-- ---------------------------------------------------------------------------

theorem exists_madeBy {i p : Nat}
    (h : (record setting source options entries).Answers log r log')
    (hi : options.chain[i]? = some link) (he : r.entries[p]? = some e)
    (hname : (r.namesInto i)[p]? = some name) :
    ∃ (stage : Stage) (made : Renaming), r.stages[i]? = some stage ∧
      stage.Ran setting source options r.entries (r.namesInto i) link ∧
      stage.renamings[p]? = some made ∧ made.MadeBy setting stage.step e name ∧
      (r.namesInto (i + 1))[p]? = some made.target := by
  obtain ⟨stage, hstage, hran⟩ := record_ran h hi
  obtain ⟨before, after, hrenamed⟩ := hran.renamed
  obtain ⟨made, _, _, _, _, hmade, hone⟩ :=
    renaming_getElem? hrenamed (List.getElem?_zip_eq_some.mpr ⟨he, hname⟩)
  refine ⟨stage, made, hstage, hran, hmade, madeBy_of_renameOne hone, ?_⟩
  simp [Record.namesInto, namesInto, hstage, Stage.targets, hmade]

/-- What every link keeps holds of all names that an entry has in turn. -/
theorem names_induction {P : Text → Prop} {i p : Nat}
    (h : (record setting source options entries).Answers log r log')
    (he : r.entries[p]? = some e) (hsource : P e.source)
    (hkeep : ∀ (i : Nat) link (stage : Stage) (made : Renaming) name,
      options.chain[i]? = some link → r.stages[i]? = some stage →
      stage.Ran setting source options r.entries (r.namesInto i) link →
      stage.renamings[p]? = some made → made.MadeBy setting stage.step e name →
      P name → P made.target)
    (hi : i ≤ options.chain.length) : ∃ name, (r.namesInto i)[p]? = some name ∧ P name := by
  induction i with
  | zero => exact ⟨e.source, by simp [Record.namesInto, namesInto, he], hsource⟩
  | succ i ih =>
    obtain ⟨name, hname, hP⟩ := ih (by omega)
    have hlink := List.getElem?_eq_getElem (show i < options.chain.length by omega)
    -- One link takes the name that all links before it have made.
    obtain ⟨stage, made, hstage, hran, hmade, hby, htarget⟩ := exists_madeBy h hlink he hname
    exact ⟨made.target, htarget, hkeep i _ stage made name hlink hstage hran hmade hby hP⟩

theorem exists_name {i p : Nat} (h : (record setting source options entries).Answers log r log')
    (he : r.entries[p]? = some e) (hi : i ≤ options.chain.length) :
    ∃ name, (r.namesInto i)[p]? = some name := by
  have hkeep : ∃ name, (r.namesInto i)[p]? = some name ∧ True :=
    names_induction h he trivial (fun _ _ _ _ _ _ _ _ _ _ _ => trivial) hi
  simpa using hkeep

-- ---------------------------------------------------------------------------
-- What comes out
-- ---------------------------------------------------------------------------

def renamedTo (entries : List Entry) (targets : List Text) : List Entry :=
  (entries.zip targets).zipIdx.map fun ((e, target), position) => e.renamed position target

theorem outcome_of_runLinks {steps : List Step} {stages : List Stage} {names : List Text}
    (hready : options.chain.map (ready options) = steps.map .ok)
    (h : (runLinks setting source options entries names
      (options.chain.zip (steps.map (·.tokens)))).Answers log stages log') :
    Record.outcome ⟨entries, stages⟩ =
      if options.chain = [] then entries
      else renamedTo entries (stages.getLast?.elim names Stage.targets) := by
  have hcount : options.chain.length = steps.length := by simpa using congrArg List.length hready
  have hstages : stages.length = options.chain.length := by simp [length_stages h, hcount]
  cases hlast : stages.getLast? with
  -- Without a last stage there has been no link.
  | none =>
    obtain rfl := List.getLast?_eq_none_iff.mp hlast
    rw [if_pos (List.length_eq_zero_iff.mp hstages.symm)]
    rfl
  | some stage =>
    have hne : options.chain ≠ [] := by
      intro hnil
      obtain rfl := List.length_eq_zero_iff.mp (hstages.trans (congrArg List.length hnil))
      cases hlast
    rw [if_neg hne]
    simp only [Record.outcome, hlast]
    rfl

theorem exists_last_stage (h : (record setting source options entries).Answers log r log')
    (hchain : options.chain ≠ []) :
    ∃ stage : Stage, r.stages.getLast? = some stage ∧
      stage.renamings.length = r.entries.length := by
  have hlength := length_record_stages h
  have hpos : 0 < options.chain.length := List.length_pos_iff.mpr hchain
  have hlast : options.chain[options.chain.length - 1]? = some (options.chain.getLast hchain) := by
    rw [← List.getLast?_eq_getElem?, List.getLast?_eq_some_getLast hchain]
  obtain ⟨stage, hstage, hran⟩ := record_ran h hlast
  obtain ⟨before, after, hrenamed⟩ := hran.renamed
  refine ⟨stage, ?_, ?_⟩
  · rw [List.getLast?_eq_getElem?, hlength]
    exact hstage
  · simp [length_renamings hrenamed, hran.length]

theorem outcome_getElem?_eq_some {r : Record} {stage : Stage} {p : Nat}
    (hlast : r.stages.getLast? = some stage) :
    r.outcome[p]? = some e ↔ ∃ before made, r.entries[p]? = some before ∧
      stage.renamings[p]? = some made ∧ e = before.renamed p made.target := by
  simp only [Record.outcome, hlast, Stage.targets, List.getElem?_map, Option.map_eq_some_iff,
    List.getElem?_zipIdx, List.getElem?_zip_eq_some, Nat.zero_add, Prod.exists, Prod.mk.injEq]
  constructor
  · rintro ⟨_, _, _, ⟨before, _, ⟨hbefore, made, hmade, rfl⟩, ⟨rfl, rfl⟩, rfl⟩, rfl⟩
    exact ⟨before, made, hbefore, hmade, rfl⟩
  · rintro ⟨before, made, hbefore, hmade, rfl⟩
    exact ⟨before, made.target, p, ⟨_, _, ⟨hbefore, made, hmade, rfl⟩, ⟨rfl, rfl⟩, rfl⟩, rfl⟩

/-- An entry gets the name that has come out of all links. -/
theorem outcome_getElem?_iff {p : Nat}
    (h : (record setting source options entries).Answers log r log')
    (hchain : options.chain ≠ []) :
    r.outcome[p]? = some o ↔ ∃ e name, r.entries[p]? = some e ∧
      (r.namesInto options.chain.length)[p]? = some name ∧ o = e.renamed p name := by
  obtain ⟨stage, hlast, -⟩ := exists_last_stage h hchain
  -- The names that come out of all links are those of the last stage.
  have hinto : r.namesInto options.chain.length = stage.targets := by
    have hpos : 0 < options.chain.length := List.length_pos_iff.mpr hchain
    rw [List.getLast?_eq_getElem?, length_record_stages h] at hlast
    rw [Record.namesInto, ← Nat.sub_add_cancel hpos, namesInto, hlast]
    rfl
  simp only [outcome_getElem?_eq_some hlast, hinto, Stage.targets, List.getElem?_map,
    Option.map_eq_some_iff]
  constructor
  · rintro ⟨e, made, he, hmade, rfl⟩
    exact ⟨e, made.target, he, ⟨made, hmade, rfl⟩, rfl⟩
  · rintro ⟨e, _, he, ⟨made, hmade, rfl⟩, rfl⟩
    exact ⟨e, made, he, hmade, rfl⟩

end Batch

end Relabel
