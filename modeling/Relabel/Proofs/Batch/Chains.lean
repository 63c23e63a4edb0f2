import Relabel.Proofs.Batch.NameOnly

/-!
# Chains compose

Two chains that look at names only may be run as one chain or one after the other. The batch is
put in order once or twice, and the two ways agree because the order is stable, stays once it is
reached, and says nothing to links that number no files.
-/

namespace Relabel

namespace Entry

def continued (e : Entry) : Entry := { e with source := e.target }

def withoutSource (e : Entry) : Entry := { e with source := [] }

def handedOn (e : Entry) (name : Text) : Entry := .pending e.baseDir name e.isDirectory

end Entry

namespace Batch

open Lookups

variable {setting : Setting} {source : MetadataSource} {options : RunOptions}
variable {step : Step} {steps front back : List Step} {entries : List Entry}

-- ---------------------------------------------------------------------------
-- Steps that number no files
-- ---------------------------------------------------------------------------

theorem target_of_noIndex (h : step.tokens.hasIndex = false) (setting : Setting)
    (counters : Counters) (isDirectory : Bool) (name : Text) :
    step.target setting counters isDirectory name =
      ((step.target setting .fresh isDirectory name).1, counters) := by
  simp only [Step.target, resolution, Tokens.indexes_eq_nil h, Counters.advanceAll]

theorem targets_of_noIndex (h : step.tokens.hasIndex = false) (counters : Counters)
    (work : List (Bool × Text)) :
    step.targets setting counters work =
      work.map fun w => (step.target setting .fresh w.1 w.2).1 := by
  induction work with
  | nil => rfl
  | cons w work ih =>
    rw [Step.targets, target_of_noIndex h, List.map_cons, ← ih]

/-- The name that steps without indexes make of a name. -/
def chainName (setting : Setting) (steps : List Step) (isDirectory : Bool) (name : Text) : Text :=
  steps.foldl (fun name step => (step.target setting .fresh isDirectory name).1) name

theorem chainTargets_of_noIndex (h : ∀ step ∈ steps, step.tokens.hasIndex = false)
    (entries : List Entry) (name : Entry → Text) :
    chainTargets setting steps (entries.map (·.isDirectory)) (entries.map name) =
      entries.map fun e => chainName setting steps e.isDirectory (name e) := by
  induction steps generalizing name with
  | nil => rfl
  | cons step steps ih =>
    obtain ⟨hstep, hsteps⟩ := List.forall_mem_cons.mp h
    have hzip : (entries.map (·.isDirectory)).zip (entries.map name) =
        entries.map fun e => (e.isDirectory, name e) := List.zip_map' ..
    rw [chainTargets, List.foldl_cons, hzip, targets_of_noIndex hstep, List.map_map]
    exact ih hsteps fun e => (step.target setting .fresh e.isDirectory (name e)).1

theorem length_targets (counters : Counters) (work : List (Bool × Text)) :
    (step.targets setting counters work).length = work.length := by
  induction work generalizing counters with
  | nil => rfl
  | cons w work ih => simp [Step.targets, ih]

theorem length_chainTargets {directories : List Bool} {names : List Text}
    (h : names.length = directories.length) :
    (chainTargets setting steps directories names).length = names.length := by
  induction steps generalizing names with
  | nil => rfl
  | cons step steps ih =>
    have hlength : (step.targets setting .fresh (directories.zip names)).length = names.length := by
      rw [length_targets, List.length_zip, h, Nat.min_self]
    exact (ih (hlength.trans h)).trans hlength

theorem chainTargets_append (directories : List Bool) (names : List Text) :
    chainTargets setting (front ++ back) directories names =
      chainTargets setting back directories (chainTargets setting front directories names) :=
  List.foldl_append

-- ---------------------------------------------------------------------------
-- What one chain hands on to the next
-- ---------------------------------------------------------------------------

private theorem map_processed {f : Entry → Entry} (hf : ∀ e, (f e).baseDir = e.baseDir)
    (tokens : List Tokens) (entries : List Entry) :
    (processed tokens entries).map f = processed tokens (entries.map f) := by
  unfold processed
  split
  · exact map_parentsFirst hf entries
  · rfl

private theorem map_renamedTo {f g : Entry → Entry}
    (h : ∀ e position target, f (e.renamed position target) = (g e).renamed position target)
    (entries : List Entry) (targets : List Text) :
    (renamedTo entries targets).map f = renamedTo (entries.map g) targets := by
  simp only [renamedTo, List.zip_map_left, List.zipIdx_map, List.map_map]
  exact List.map_congr_left fun w _ => h ..

private theorem outcomeOf_fresh (setting : Setting) (steps : List Step) (entries : List Entry) :
    outcomeOf setting steps (entries.map fun e => e.handedOn e.source) =
      outcomeOf setting steps entries := by
  have hprocessed := @map_processed (fun e => e.handedOn e.source) (fun _ => rfl)
    (steps.map (·.tokens)) entries
  have hrenamed := @map_renamedTo id (fun e => e.handedOn e.source) fun _ _ _ => rfl
  simp only [List.map_id] at hrenamed
  simp only [outcomeOf, ← hprocessed, List.map_map, ← hrenamed]
  rfl

def handedOnBy (setting : Setting) (steps : List Step) (ordered : List Entry) : List Entry :=
  (ordered.zip (chainTargets setting steps (ordered.map (·.isDirectory))
    (ordered.map (·.source)))).map fun (e, name) => e.handedOn name

private theorem map_outcomeOf_continued (setting : Setting) (steps : List Step) (entries : List Entry) :
    ((outcomeOf setting steps entries).map Entry.continued).map (fun e => e.handedOn e.source) =
      handedOnBy setting steps (processed (steps.map (·.tokens)) entries) := by
  rw [outcomeOf, handedOnBy]
  generalize processed (steps.map (·.tokens)) entries = ordered
  generalize chainTargets setting steps _ _ = targets
  conv_rhs => rw [← List.zipIdx_map_fst 0 (ordered.zip targets)]
  simp only [renamedTo, List.map_map]
  rfl

section HandedOn

variable (setting : Setting) (steps : List Step) (ordered : List Entry)

theorem length_chainTargets_entries :
    (chainTargets setting steps (ordered.map (·.isDirectory)) (ordered.map (·.source))).length =
      ordered.length := by
  simp [length_chainTargets]

private theorem map_handedOnBy {f : Entry → α} (hf : ∀ e name, f (e.handedOn name) = f e) :
    (handedOnBy setting steps ordered).map f = ordered.map f := by
  have hlength := length_chainTargets_entries setting steps ordered
  conv_rhs => rw [← List.map_fst_zip (Nat.le_of_eq hlength.symm)]
  rw [handedOnBy, List.map_map, List.map_map]
  exact List.map_congr_left fun w _ => hf w.1 w.2

private theorem map_source_handedOnBy :
    (handedOnBy setting steps ordered).map (·.source) =
      chainTargets setting steps (ordered.map (·.isDirectory)) (ordered.map (·.source)) := by
  have hlength := length_chainTargets_entries setting steps ordered
  conv_rhs => rw [← List.map_snd_zip (Nat.le_of_eq hlength)]
  rw [handedOnBy, List.map_map]
  rfl

variable {steps}

theorem handedOnBy_of_noIndex (h : ∀ step ∈ steps, step.tokens.hasIndex = false) :
    handedOnBy setting steps ordered =
      ordered.map fun e => e.handedOn (chainName setting steps e.isDirectory e.source) := by
  have hzip := @List.zip_map' _ _ _ id
    (fun e : Entry => chainName setting steps e.isDirectory e.source) ordered
  rw [List.map_id] at hzip
  rw [handedOnBy, chainTargets_of_noIndex h, hzip, List.map_map]
  rfl

end HandedOn

/-- However the first chain goes through the batch, the second one starts from the order of both
chains together and from the names that the first chain makes in it. -/
theorem processed_handedOnBy (setting : Setting) (front back : List Step) (entries : List Entry) :
    processed (back.map (·.tokens))
        (handedOnBy setting front (processed (front.map (·.tokens)) entries)) =
      handedOnBy setting front (processed ((front ++ back).map (·.tokens)) entries) := by
  cases hfront : (front.map (·.tokens)).any Tokens.hasIndex with
  | true =>
    have hboth : ((front ++ back).map (·.tokens)).any Tokens.hasIndex = true := by
      rw [List.map_append, List.any_append, hfront, Bool.true_or]
    -- The batch has been put in order for the first chain, and there it stays.
    have hordered : parentsFirst (handedOnBy setting front (parentsFirst entries)) =
        handedOnBy setting front (parentsFirst entries) :=
      parentsFirst_of_map_baseDir (map_handedOnBy setting front _ fun _ _ => rfl)
    simp only [processed, hfront, hboth, ↓reduceIte, hordered, ite_self]
  | false =>
    have hboth : ((front ++ back).map (·.tokens)).any Tokens.hasIndex =
        (back.map (·.tokens)).any Tokens.hasIndex := by
      rw [List.map_append, List.any_append, hfront, Bool.false_or]
    -- The first chain treats every name alike, so it may run before or after the ordering.
    have hnone : ∀ step ∈ front, step.tokens.hasIndex = false := by
      intro step hstep
      simpa using List.any_eq_false.mp hfront step.tokens (List.mem_map_of_mem hstep)
    have hmap := @map_processed
      (fun e => e.handedOn (chainName setting front e.isDirectory e.source)) (fun _ => rfl)
      (back.map (·.tokens)) entries
    rw [handedOnBy_of_noIndex _ _ hnone, handedOnBy_of_noIndex _ _ hnone]
    simp only [processed, hfront, hboth, Bool.false_eq_true, ↓reduceIte] at hmap ⊢
    exact hmap.symm

theorem outcomeOf_append (setting : Setting) (front back : List Step) (entries : List Entry) :
    (outcomeOf setting (front ++ back) entries).map Entry.withoutSource =
      (outcomeOf setting back ((outcomeOf setting front entries).map Entry.continued)).map
        Entry.withoutSource := by
  have hrenamed := @map_renamedTo Entry.withoutSource (fun e => e.handedOn []) fun _ _ _ => rfl
  rw [← outcomeOf_fresh setting back, map_outcomeOf_continued, outcomeOf, outcomeOf,
    processed_handedOnBy, hrenamed, hrenamed, chainTargets_append, map_source_handedOnBy,
    map_handedOnBy _ _ _ fun _ _ => rfl, map_handedOnBy _ _ _ fun _ _ => rfl]

theorem run_withChain_answers {chain : Chain} (hsort : options.sort = none) (hchain : chain ≠ [])
    (hnames : ∀ link ∈ chain, NameOnly link) :
    (run setting source { options with chain } entries).Answers log out log' ↔
      log = log' ∧ ∃ steps, chain.map (ready options) = steps.map .ok ∧
        outcomeOf setting steps entries = out :=
  -- How a link is made ready does not depend on the chain that it belongs to.
  @run_answers_of_nameOnly setting source { options with chain } entries log out log' hsort hchain
    hnames

/-- One chain made of two and the two chains one after the other succeed together, and but for the
sources they come to the same. -/
theorem chains_compose {front back : Chain} (hsort : options.sort = none) (hfront : front ≠ [])
    (hback : back ≠ []) (hnames : ∀ link ∈ front ++ back, NameOnly link) (log : List Lookup) :
    ((∃ out log', (run setting source { options with chain := front ++ back } entries).Answers log
        out log') ↔
      ∃ middle log', (run setting source { options with chain := front } entries).Answers log
          middle log' ∧
        ∃ final log'', (run setting source { options with chain := back }
          (middle.map Entry.continued)).Answers log' final log'') ∧
    ∀ out log₁ middle log₂ final log₃,
      (run setting source { options with chain := front ++ back } entries).Answers log out log₁ →
      (run setting source { options with chain := front } entries).Answers log middle log₂ →
      (run setting source { options with chain := back } (middle.map Entry.continued)).Answers log₂
        final log₃ →
      out.map Entry.withoutSource = final.map Entry.withoutSource := by
  have hfrontNames : ∀ link ∈ front, NameOnly link := fun link hlink =>
    hnames link (List.mem_append_left _ hlink)
  have hbackNames : ∀ link ∈ back, NameOnly link := fun link hlink =>
    hnames link (List.mem_append_right _ hlink)
  have hne : front ++ back ≠ [] := by simp [hfront]
  simp only [run_withChain_answers hsort hne hnames, run_withChain_answers hsort hfront hfrontNames,
    run_withChain_answers hsort hback hbackNames]
  constructor
  · constructor
    · rintro ⟨_, _, rfl, steps, hready, rfl⟩
      -- Links are made ready one by one, so the steps split where the chain does.
      rw [List.map_append] at hready
      obtain ⟨first, second, rfl, hfirst, hsecond⟩ := List.map_eq_append_iff.mp hready.symm
      exact ⟨_, log, ⟨rfl, first, hfirst.symm, rfl⟩, _, log, rfl, second, hsecond.symm, rfl⟩
    · rintro ⟨_, _, ⟨rfl, first, hfirst, rfl⟩, _, _, rfl, second, hsecond, rfl⟩
      exact ⟨_, log, rfl, first ++ second, by rw [List.map_append, List.map_append, hfirst, hsecond],
        rfl⟩
  · rintro _ _ _ _ _ _ ⟨-, steps, hready, rfl⟩ ⟨-, first, hfirst, rfl⟩ ⟨-, second, hsecond, rfl⟩
    obtain rfl : steps = first ++ second := by
      rw [List.map_append, hfirst, hsecond, ← List.map_append] at hready
      exact List.map_injective_iff.mpr (fun _ _ => Except.ok.inj) hready.symm
    exact outcomeOf_append setting first second entries

theorem nameOnly_of_tokens (h : Template.tokens link.replacement = .ok tokens)
    (hwanted : ∀ token ∈ tokens, token.wanted.needsNameOnly = true) : NameOnly link := by
  intro found hfound
  obtain rfl := Except.ok.inj (hfound.symm.trans h)
  exact hwanted

def swapLetter : Link := ⟨"(.)(.)".toList, "$2$1".toList⟩

def numberInFront : Link := ⟨[], "{%02d}-{f}".toList⟩

def plainOptions : RunOptions := ⟨[], ⟨false, false⟩, 0, false, none, false⟩

def twoLetters : List Entry :=
  ["a1", "b2"].map fun name => .pending "d".toList name.toList false

theorem run_swapLetter :
    (run .bare .silent { plainOptions with chain := [swapLetter] } twoLetters).Answers []
      [⟨"a1".toList, "1a".toList, "d".toList, "d/1a".toList, false, 0, .ok⟩,
        ⟨"b2".toList, "2b".toList, "d".toList, "d/2b".toList, false, 1, .ok⟩] [] := by
  unfold Answers
  decide +kernel

theorem run_numberInFront :
    (run .bare .silent { plainOptions with chain := [numberInFront] }
      ([⟨"a1".toList, "1a".toList, "d".toList, "d/1a".toList, false, 0, .ok⟩,
        ⟨"b2".toList, "2b".toList, "d".toList, "d/2b".toList, false, 1, .ok⟩].map
          Entry.continued)).Answers []
      [⟨"1a".toList, "01-1a".toList, "d".toList, "d/01-1a".toList, false, 0, .ok⟩,
        ⟨"2b".toList, "02-2b".toList, "d".toList, "d/02-2b".toList, false, 1, .ok⟩] [] := by
  rw [run_of_pairwise rfl (by decide)]
  unfold Answers
  decide +kernel

theorem chains_compose_swapLetter_numberInFront :
    ∃ out log, (run .bare .silent { plainOptions with chain := [swapLetter] ++ [numberInFront] }
        twoLetters).Answers [] out log ∧
      out.map (·.target) = ["01-1a".toList, "02-2b".toList] := by
  -- Both links as one chain.
  have hnames : ∀ link ∈ [swapLetter] ++ [numberInFront], NameOnly link := by
    intro link hlink
    rcases List.mem_pair.mp hlink with rfl | rfl
    · exact @nameOnly_of_tokens [] swapLetter (by decide +kernel) (by decide)
    · exact @nameOnly_of_tokens [⟨"{f}".toList, .stem none⟩,
        ⟨"{%02d}".toList, .index ⟨1, 1, 2, .decimal, [], none⟩⟩] numberInFront (by decide +kernel)
        (by decide)
  obtain ⟨hsucceeds, hagree⟩ := @chains_compose .bare .silent plainOptions twoLetters
    [swapLetter] [numberInFront] rfl (by simp) (by simp) hnames []
  obtain ⟨out, log, hout⟩ := hsucceeds.mpr ⟨_, _, run_swapLetter, _, _, run_numberInFront⟩
  have hsame := hagree _ _ _ _ _ _ hout run_swapLetter run_numberInFront
  refine ⟨out, log, hout, ?_⟩
  have htargets := congrArg (List.map (·.target)) hsame
  simpa [Entry.withoutSource, Function.comp_def] using htargets

end Batch

end Relabel
