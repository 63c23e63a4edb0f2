import Relabel.Proofs.Batch.Stages
import Relabel.Proofs.Naming.NameOnly
import Relabel.Proofs.Naming.Questions

/-!
# The trace of a run

What a run asks is told before it begins: link by link and file by file, what the variables of the
link ask about the file where it lies. The run asks this in turn up to the first question that fails
or the first link that cannot search: `trace_of_run`.
-/

namespace Relabel.Batch

open Lookups

variable {setting : Setting} {source : MetadataSource} {options : RunOptions}
variable {step : Step} {entries : List Entry}

/-- What a link with these variables asks. -/
def linkAgenda (entries : List Entry) (tokens : Tokens) : List Lookup :=
  entries.flatMap fun e => tokens.questions.map (⟨·, e.sourcePath⟩)

def searchError? (mode : FindMode) (link : Link) : Option PatternError :=
  match Pattern.compile mode link.find with
  | .ok _ => none
  | .error cause => some cause

def agenda (mode : FindMode) (entries : List Entry) (links : List (Link × Tokens)) : List Lookup :=
  (links.takeWhile fun w => (searchError? mode w.1).isNone).flatMap fun w =>
    linkAgenda entries w.2

def firstSearchError? (mode : FindMode) (links : List (Link × Tokens)) : Option RunError :=
  links.findSome? fun w => (searchError? mode w.1).map .pattern

private theorem asks_renameOne (setting : Setting) (source : MetadataSource) (step : Step) (e : Entry)
    (name : Text) (counters : Counters) :
    Asks source (step.tokens.questions.map (⟨·, e.sourcePath⟩)) none
      (renameOne setting source step e name counters) := by
  have hfetch := Facts.asks_fetch source e.sourcePath step.tokens
  unfold renameOne resolve
  exact asks_bind_quiet (asks_bind_quiet hfetch fun _ => asks_pure _) fun _ => asks_pure _

private theorem asks_renameAll (setting : Setting) (source : MetadataSource) (step : Step)
    (counters : Counters) (work : List (Entry × Text)) :
    Asks source (linkAgenda (work.map (·.1)) step.tokens) none
      (renameAll setting source step counters work) := by
  induction work generalizing counters with
  | nil => exact asks_pure []
  | cons first rest ih =>
    obtain ⟨e, name⟩ := first
    refine asks_bind (asks_renameOne setting source step e name counters) fun made _ _ _ => ?_
    exact asks_bind_quiet (ih made.2) fun others => asks_pure _

theorem asks_runLinks (setting : Setting) (source : MetadataSource) (options : RunOptions)
    (entries : List Entry) (links : List (Link × Tokens)) (hnames : names.length = entries.length) :
    Asks source (agenda options.mode entries links) (firstSearchError? options.mode links)
      (runLinks setting source options entries names links) := by
  induction links generalizing names with
  | nil => exact asks_pure []
  | cons first links ih =>
    obtain ⟨link, tokens⟩ := first
    cases hcompile : Pattern.compile options.mode link.find with
    | error cause =>
      have herror : searchError? options.mode link = some cause := by rw [searchError?, hcompile]
      have hprepare : prepare options link tokens = .error (.pattern cause) := by
        rw [prepare, hcompile]
      have hagenda : agenda options.mode entries ((link, tokens) :: links) = [] := by
        simp [agenda, herror]
      have hstop : firstSearchError? options.mode ((link, tokens) :: links) =
          some (.pattern cause) := by
        simp [firstSearchError?, herror]
      rw [hagenda, hstop, runLinks, hprepare]
      exact asks_error (.pattern cause)
    | ok search =>
      have herror : searchError? options.mode link = none := by rw [searchError?, hcompile]
      obtain ⟨step, hprepare, htokens⟩ :
          ∃ step, prepare options link tokens = .ok step ∧ step.tokens = tokens :=
        ⟨_, prepare_eq_ok.mpr ⟨search, hcompile, rfl⟩, rfl⟩
      have hagenda : agenda options.mode entries ((link, tokens) :: links) =
          linkAgenda ((entries.zip names).map (·.1)) step.tokens ++
            agenda options.mode entries links := by
        rw [List.map_fst_zip (Nat.le_of_eq hnames.symm), htokens]
        simp [agenda, herror]
      have hstop : firstSearchError? options.mode ((link, tokens) :: links) =
          firstSearchError? options.mode links := by
        simp [firstSearchError?, herror]
      have hlift : (liftM (Except.ok step : Except RunError _) : Lookups _) = pure step := rfl
      rw [hagenda, hstop, runLinks, hprepare, hlift, pure_bind]
      refine asks_bind (asks_renameAll ..) fun renamings _ _ hrenamed => ?_
      -- The next link gets one name for each entry, too.
      have hlength : (Stage.targets ⟨step, renamings⟩).length = entries.length := by
        simp [Stage.targets, length_renamings hrenamed, hnames]
      exact asks_bind_quiet (ih hlength) fun others => asks_pure _

private theorem asks_mapM_readTemplate {chain : Chain} (source : MetadataSource)
    (hlink : link ∈ chain) (h : Template.tokens link.replacement = .error cause) :
    ∃ first, Asks source [] (some (.template first))
      (chain.mapM fun link => (readTemplate link : Lookups Tokens)) := by
  induction chain with
  | nil => cases hlink
  | cons head chain ih =>
    rw [List.mapM_cons]
    cases hhead : Template.tokens head.replacement with
    | error first =>
      have hread : readTemplate head = .error (.template first) := by rw [readTemplate, hhead]; rfl
      exact ⟨first, hread ▸ asks_bind_error (asks_error _) _⟩
    -- The template that cannot be read is further down the chain.
    | ok tokens =>
      have hread : readTemplate head = .ok tokens := by rw [readTemplate, hhead]; rfl
      have htail : link ∈ chain := by
        rcases List.mem_cons.mp hlink with rfl | htail
        · rw [h] at hhead
          cases hhead
        · exact htail
      obtain ⟨first, hfirst⟩ := ih htail
      refine ⟨first, ?_⟩
      rw [hread]
      exact asks_bind_error hfirst _

private theorem mapM_readTemplate {chain : Chain} {tokens : List Tokens}
    (h : chain.map readTemplate = tokens.map .ok) :
    (chain.mapM fun link => (readTemplate link : Lookups Tokens)) = pure tokens :=
  funext fun _ => answers_mapM_lift.mpr ⟨h, rfl⟩

theorem exists_sorting_of_sortedBy {disk : Disk} (h : sortedBy disk options entries = .error cause) :
    ∃ failure, cause = .sorting failure := by
  unfold sortedBy at h
  split at h
  case h_1 criterion _ =>
    cases hsort : sortEntries disk criterion options.reverse entries with
    | ok sorted =>
      rw [hsort] at h
      cases h
    | error failure =>
      rw [hsort] at h
      exact ⟨failure, (Except.error.inj h).symm⟩
  case h_2 => cases h

/-- A batch that cannot be sorted and a template that cannot be read, of whichever link, end the run
before anything is asked. Else it asks, link by link and file by file in the order in which the
batch is gone through, what the variables of the link ask about the file where it lies. The first
question that fails ends the run with the path of the file, and a link that cannot search ends it
before its own questions. -/
theorem trace_of_run (setting : Setting) (source : MetadataSource) (options : RunOptions)
    (entries : List Entry) :
    (∀ cause, sortedBy setting.disk options entries = .error cause →
      ∃ failure, cause = .sorting failure ∧
        Asks source [] (some cause) (run setting source options entries)) ∧
    ∀ sorted, sortedBy setting.disk options entries = .ok sorted →
      (∀ link ∈ options.chain, ∀ cause, Template.tokens link.replacement = .error cause →
        ∃ first, Asks source [] (some (.template first)) (run setting source options entries)) ∧
      ∀ tokens : List Tokens, options.chain.map readTemplate = tokens.map .ok →
        Asks source (agenda options.mode (processed tokens sorted) (options.chain.zip tokens))
          (firstSearchError? options.mode (options.chain.zip tokens))
          (run setting source options entries) := by
  -- The three ways in which a run goes on: it cannot sort, it cannot read a template, or it asks.
  refine ⟨fun cause hsort => ?unsorted, fun sorted hsort =>
    ⟨fun link hlink cause hcause => ?unreadable, fun tokens htokens => ?asked⟩⟩
  case unsorted =>
    obtain ⟨failure, hcause⟩ := exists_sorting_of_sortedBy hsort
    refine ⟨failure, hcause, ?_⟩
    rw [run, record, hsort]
    exact asks_map (asks_bind_error (asks_error cause) _) _
  case unreadable =>
    obtain ⟨first, hfirst⟩ := asks_mapM_readTemplate source hlink hcause
    rw [run_of_sorted hsort]
    exact ⟨first, asks_bind_error hfirst _⟩
  case asked =>
    rw [run_of_sorted hsort, mapM_readTemplate htokens, pure_bind]
    exact asks_bind_quiet (asks_runLinks _ _ _ _ _ (by simp)) fun stages => asks_pure _

def askingThenUnreadable : RunOptions where
  chain := [⟨"x".toList, "{hash.sha256}{mtime.YYYY}{hash.sha256.up}".toList⟩,
    ⟨"(".toList, "{csv.1}".toList⟩]
  mode := ⟨false, false⟩
  limit := 0
  keepExtension := false
  sort := none
  reverse := false

def askingThenUnreadableTokens : List Tokens := [
  [⟨"{hash.sha256}".toList, .digest .sha256 none⟩,
    ⟨"{hash.sha256.up}".toList, .digest .sha256 (some .upper)⟩,
    ⟨"{mtime.YYYY}".toList, .time .modified .year none⟩],
  [⟨"{csv.1}".toList, .column 1 none⟩]]

def xAndY : List Entry := ["x", "y"].map fun name => .pending "d".toList name.toList false

def allButOneDigest (missing : Text) : MetadataSource :=
  { MetadataSource.silent with
    times := fun _ => .ok ⟨⟨0, 0, 0⟩, ⟨0, 0, 0⟩, none, none⟩
    digest := fun _ path => if path = missing then .error (.unopenableForDigest path) else .ok [] }

theorem trace_of_run_askingThenUnreadable :
    (run .bare (allButOneDigest "d/z".toList) askingThenUnreadable xAndY).after [] =
      (.error (.pattern .unclosedGroup), [⟨.times, "d/x".toList⟩, ⟨.digest .sha256, "d/x".toList⟩,
        ⟨.times, "d/y".toList⟩, ⟨.digest .sha256, "d/y".toList⟩]) ∧
    (run .bare (allButOneDigest "d/x".toList) askingThenUnreadable xAndY).after [] =
      (.error (.lookup "d/x".toList (.unopenableForDigest "d/x".toList)),
        [⟨.times, "d/x".toList⟩, ⟨.digest .sha256, "d/x".toList⟩]) := by
  -- Where all is known the second link ends the run, and else the file of which the digest is not
  -- known.
  have hsort : sortedBy Setting.bare.disk askingThenUnreadable xAndY = .ok xAndY := rfl
  have htokens : askingThenUnreadable.chain.map readTemplate =
      askingThenUnreadableTokens.map .ok := by decide +kernel
  have hagenda : agenda askingThenUnreadable.mode (processed askingThenUnreadableTokens xAndY)
      (askingThenUnreadable.chain.zip askingThenUnreadableTokens) =
      [⟨.times, "d/x".toList⟩, ⟨.digest .sha256, "d/x".toList⟩,
        ⟨.times, "d/y".toList⟩, ⟨.digest .sha256, "d/y".toList⟩] := by decide +kernel
  have hstop : firstSearchError? askingThenUnreadable.mode
      (askingThenUnreadable.chain.zip askingThenUnreadableTokens) =
      some (.pattern .unclosedGroup) := by decide +kernel
  have hasks (source : MetadataSource) :=
    ((trace_of_run .bare source askingThenUnreadable xAndY).2 _ hsort).2 _ htokens
  rw [hagenda, hstop] at hasks
  have hall : (allButOneDigest "d/z".toList).AnswersAll
      [⟨.times, "d/x".toList⟩, ⟨.digest .sha256, "d/x".toList⟩, ⟨.times, "d/y".toList⟩,
        ⟨.digest .sha256, "d/y".toList⟩] := by
    unfold MetadataSource.AnswersAll
    decide
  have hfront : (allButOneDigest "d/x".toList).AnswersAll [⟨.times, "d/x".toList⟩] := by
    unfold MetadataSource.AnswersAll
    decide
  exact ⟨(hasks _).stopped [] _ hall rfl, (hasks _).failed [] _ _ _ _ rfl hfront rfl⟩

end Relabel.Batch
