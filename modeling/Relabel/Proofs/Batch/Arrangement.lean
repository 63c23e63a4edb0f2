import Relabel.Proofs.Batch.Sorting
import Relabel.Proofs.Naming.NameOnly
import Relabel.Proofs.Path.Components

/-!
# What a run does to the order of its batch

Names change from link to link, entries do not. A run hands back the entries of its batch, each at
the place that sorting and numbering have given it, and it tells the place, the target and the path
of each.
-/

namespace Relabel

def Entry.identity (e : Entry) : Text × Text × Bool := (e.source, e.baseDir, e.isDirectory)

namespace Batch

open Lookups

variable {setting : Setting} {source : MetadataSource} {options : RunOptions}
variable {entries sorted ordered : List Entry}

/-- The batch is stably sorted by the criterion, from the other end if `reverse`; without a
criterion it stays as it is. -/
def SortedBy (disk : Disk) (options : RunOptions) (entries sorted : List Entry) : Prop :=
  match options.sort with
  | some criterion =>
    (∀ e ∈ entries, ∃ key, e.sortKey disk criterion = .ok key) ∧
      StablySorted (Entry.sortOrder disk criterion options.reverse) entries sorted
  | none => sorted = entries

/-- A chain with an index in any of its links stably sorts the batch by depth; any other chain
leaves it as it is. -/
def ArrangedFor (chain : Chain) (sorted ordered : List Entry) : Prop :=
  if chain.any Link.hasIndex then StablySorted Entry.depthOrder sorted ordered
  else ordered = sorted

theorem sortedBy_of_eq_ok (h : sortedBy disk options entries = .ok sorted) :
    SortedBy disk options entries sorted := by
  rw [sortedBy_eq_ok] at h
  unfold SortedBy
  split
  case h_1 criterion hsort =>
    rw [hsort] at h
    exact ⟨(sortEntries_eq_ok.mp h).1, stablySorted_sortEntries h⟩
  case h_2 hsort =>
    rw [hsort] at h
    exact h

theorem arrangedFor_processed {chain : Chain} {tokens : List Tokens}
    (htokens : chain.map readTemplate = tokens.map .ok) (sorted : List Entry) :
    ArrangedFor chain sorted (processed tokens sorted) := by
  unfold ArrangedFor processed
  rw [any_hasIndex htokens]
  split
  · exact stablySorted_parentsFirst sorted
  · rfl

private theorem map_identity_outcome (h : (record setting source options entries).Answers log r log')
    (hchain : options.chain ≠ []) :
    r.outcome.map Entry.identity = r.entries.map Entry.identity := by
  -- The outcome and the batch are compared place by place.
  refine List.ext_getElem? fun p => ?_
  rw [List.getElem?_map, List.getElem?_map]
  cases he : r.entries[p]? with
  | none =>
    cases ho : r.outcome[p]? with
    | none => rfl
    | some o =>
      obtain ⟨e, _, he', -, -⟩ := (outcome_getElem?_iff h hchain).mp ho
      simp [he] at he'
  | some e =>
    obtain ⟨name, hname⟩ := exists_name h he (Nat.le_refl _)
    have ho := (outcome_getElem?_iff h hchain).mpr ⟨e, name, he, hname, rfl⟩
    rw [ho]
    rfl

theorem depth_lt_of_prefix {a b : Entry} (hname : Path.IsFileName a.source)
    (hbelow : Path.components a.sourcePath <+: Path.components b.baseDir) :
    Path.depth a.baseDir < Path.depth b.baseDir := by
  -- The path of `a` has one component more than its base directory.
  have hlength := hbelow.length_le
  rw [Entry.sourcePath, Path.components_join _ hname, List.length_append] at hlength
  exact hlength

theorem lt_of_depth_lt {a b : Entry} {p q : Nat}
    (h : StablySorted Entry.depthOrder sorted ordered) (ha : ordered[p]? = some a)
    (hb : ordered[q]? = some b) (hdepth : Path.depth a.baseDir < Path.depth b.baseDir) : p < q := by
  have hnot : (b.depthOrder a).isLE = false := by
    rw [Entry.depthOrder, Nat.compare_eq_gt.mpr hdepth]
    rfl
  -- At one place there is one entry, and that is not less deep than itself.
  refine Nat.lt_of_le_of_ne (h.le_of_not_isLE ha hb hnot) ?_
  rintro rfl
  obtain rfl := Option.some.inj (ha.symm.trans hb)
  omega

/-- A run hands back its batch: the same entries by their own sources, sorted by the criterion and
then arranged for the chain. Where an index has arranged them, each comes before all that lies below
it. Every entry tells its place and where its target lies. -/
theorem batch_of_run (hrun : (run setting source options entries).Answers log out log')
    (hchain : options.chain ≠ []) :
    (out.map Entry.identity).Perm (entries.map Entry.identity) ∧
    (∃ sorted ordered : List Entry, SortedBy setting.disk options entries sorted ∧
      ArrangedFor options.chain sorted ordered ∧
      out.map Entry.identity = ordered.map Entry.identity) ∧
    (options.chain.any Link.hasIndex = true → ∀ (p q : Nat) a b, out[p]? = some a →
      out[q]? = some b → Path.IsFileName a.source →
      Path.components a.sourcePath <+: Path.components b.baseDir → p < q) ∧
    ∀ (p : Nat) e, out[p]? = some e →
      e.position = p ∧ e.status = .ok ∧ e.targetPath = Path.join e.baseDir e.target := by
  obtain ⟨r, hrecord, rfl⟩ := answers_map.mp hrun
  obtain ⟨sorted, tokens, hsorted, htokens, hentries, -⟩ := record_answers.mp hrecord
  -- The links keep the entries, so all that a run arranges is arranged before the first of them.
  have hidentity := map_identity_outcome hrecord hchain
  have harranged : ArrangedFor options.chain sorted r.entries :=
    hentries ▸ arrangedFor_processed htokens sorted
  refine ⟨?_, ⟨sorted, r.entries, sortedBy_of_eq_ok hsorted, harranged, hidentity⟩, ?_, ?_⟩
  · rw [hidentity]
    exact (record_perm hrecord).map _
  · intro hindex p q a b ha hb hname hbelow
    obtain ⟨a, _, hentry, -, rfl⟩ := (outcome_getElem?_iff hrecord hchain).mp ha
    obtain ⟨b, _, hother, -, rfl⟩ := (outcome_getElem?_iff hrecord hchain).mp hb
    have hdepth : Path.depth a.baseDir < Path.depth b.baseDir := depth_lt_of_prefix hname hbelow
    rw [ArrangedFor, if_pos hindex] at harranged
    exact lt_of_depth_lt harranged hentry hother hdepth
  · intro p o ho
    obtain ⟨e, name, -, -, rfl⟩ := (outcome_getElem?_iff hrecord hchain).mp ho
    exact ⟨rfl, rfl, rfl⟩

/-- From the end of the alphabet, with a number in the second link. -/
def numberFromTheEnd : { options : RunOptions // options.chain.any Link.hasIndex = true } where
  val :=
    { chain := [⟨"x".toList, "y".toList⟩, ⟨[], "{%d}{f}".toList⟩]
      mode := ⟨false, false⟩
      limit := 0
      keepExtension := false
      sort := some .default
      reverse := true }
  property := by decide +kernel

def directoryOfFile : Entry := .pending "d".toList "x".toList true

def fileBelow : Entry := .pending "d/x".toList "a".toList false

theorem run_numberFromTheEnd :
    (run .bare .silent numberFromTheEnd [directoryOfFile, fileBelow]).Answers []
      [⟨"x".toList, "1y".toList, "d".toList, "d/1y".toList, true, 0, .ok⟩,
        ⟨"a".toList, "2a".toList, "d/x".toList, "d/x/2a".toList, false, 1, .ok⟩] [] := by
  -- The sort by merging is unfolded by hand, since it does not reduce.
  have hsorted : sortedBy Setting.bare.disk numberFromTheEnd [directoryOfFile, fileBelow] =
      .ok [fileBelow, directoryOfFile] := by
    have horder : (directoryOfFile.sortOrder Setting.bare.disk .default true fileBelow).isLE =
        false := by decide +kernel
    refine sortedBy_eq_ok.mpr (sortEntries_eq_ok.mpr ⟨fun e _ => ⟨_, rfl⟩, ?_⟩)
    simp [List.mergeSort, numberFromTheEnd, horder]
  have hdepth : parentsFirst [fileBelow, directoryOfFile] = [directoryOfFile, fileBelow] := by
    have hlt : ¬Path.depth fileBelow.baseDir ≤ Path.depth directoryOfFile.baseDir := by decide
    simp [parentsFirst, List.mergeSort, hlt]
  rw [run_of_sorted hsorted]
  simp only [processed, hdepth]
  unfold Answers
  decide +kernel

theorem batch_of_run_numberFromTheEnd :
    ∃ sorted ordered : List Entry,
      SortedBy Setting.bare.disk numberFromTheEnd [directoryOfFile, fileBelow] sorted ∧
      ArrangedFor numberFromTheEnd.val.chain sorted ordered ∧
      [("x".toList, "d".toList, true), ("a".toList, "d/x".toList, false)] =
        ordered.map Entry.identity :=
  -- Sorting has put the file first, and for the number the directory comes first again.
  (batch_of_run run_numberFromTheEnd (by decide)).2.1

end Batch

end Relabel
