import Relabel.Proofs.Batch.Sorting
import Relabel.Proofs.Naming.NameOnly
import Relabel.Proofs.Path.Extension

/-!
# Extensions that are kept

Where extensions are kept out of the replacement, a file goes by names that end in its own extension
from link to link, and each link works on what stands in front of it. Only a replacement that leaves
nothing solid there can bring forth another extension.
-/

namespace Relabel

namespace Batch

open Lookups

variable {setting : Setting} {source : MetadataSource} {options : RunOptions}
variable {entries : List Entry}

def KeepsExtension (e : Entry) : Prop :=
  e.isDirectory = false ∧ Path.IsFirm (Path.extension e.source)

/-- At every link something solid has come in front of the extension of the entry at a place. -/
def Record.SolidAt (r : Record) (p : Nat) : Prop :=
  ∀ stage ∈ r.stages, ∀ made ∈ stage.renamings[p]?, Path.IsSolid made.resolution.text

instance (e : Entry) : Decidable (KeepsExtension e) := by
  unfold KeepsExtension
  infer_instance

theorem extension_of_madeBy {step : Step} {made : Renaming}
    (h : made.MadeBy setting step e name) (hkeep : step.keepExtension = true)
    (hfile : e.isDirectory = false) : made.extension = Path.extension name := by
  rw [h.extension, Step.extension, splitName, hkeep, hfile]
  rfl

theorem extension_target_of_madeBy {step : Step} {made : Renaming}
    (h : made.MadeBy setting step e name) (hkeep : step.keepExtension = true)
    (hfile : e.isDirectory = false) (hfirm : Path.IsFirm (Path.extension name))
    (hsolid : Path.IsSolid made.resolution.text) :
    Path.extension made.target = Path.extension name := by
  rw [Renaming.target, Renaming.written, extension_of_madeBy h hkeep hfile]
  exact Path.extension_trim_clean hfirm hsolid

theorem exists_name_extension {i p : Nat}
    (h : (record setting source options entries).Answers log r log')
    (hkeep : options.keepExtension = true) (he : r.entries[p]? = some e) (hfirm : KeepsExtension e)
    (hsolid : r.SolidAt p) (hi : i ≤ options.chain.length) :
    ∃ name, (r.namesInto i)[p]? = some name ∧ Path.extension name = Path.extension e.source := by
  -- What a link hands on ends in the extension that it was handed, whatever it did to the stem.
  refine names_induction h he rfl ?_ hi
  intro i link stage made name _ hstage hran hmade hby hname
  have hkept : stage.step.keepExtension = true := hran.keepExtension_eq.trans hkeep
  have hstageSolid := hsolid stage (List.mem_of_getElem? hstage) made hmade
  rw [← hname]
  exact extension_target_of_madeBy hby hkept hfirm.1 (hname ▸ hfirm.2) hstageSolid

/-- A run that keeps extensions keeps the extension of every file through the whole chain, and every
link applies its find pattern and its template to what stands in front of it. Without a link the
targets are those that the entries come with. -/
theorem extension_kept (hrun : (run setting source options entries).Answers log out log')
    (hkeep : options.keepExtension = true)
    (hfresh : options.chain = [] → ∀ e ∈ entries, e.target = e.source) :
    ∃ r, (record setting source options entries).Answers log r log' ∧ r.outcome = out ∧
      r.entries.Perm entries ∧
      ∀ (p : Nat) e, r.entries[p]? = some e → KeepsExtension e → r.SolidAt p →
        (∃ o, out[p]? = some o ∧ o.source = e.source ∧
          Path.extension o.target = Path.extension e.source) ∧
        ∀ (i : Nat) link, options.chain[i]? = some link →
          ∃ (stage : Stage) (made : Renaming), r.stages[i]? = some stage ∧
            stage.Ran setting source options r.entries (r.namesInto i) link ∧
            stage.renamings[p]? = some made ∧
            (r.namesInto i)[p]? = some (made.subject.matched ++ Path.extension e.source) ∧
            made.extension = Path.extension e.source ∧
            made.MadeBy setting stage.step e (made.subject.matched ++ Path.extension e.source) := by
  obtain ⟨r, hrecord, rfl⟩ := answers_map.mp hrun
  refine ⟨r, hrecord, rfl, record_perm hrecord, fun p e he hfirm hsolid => ⟨?_, ?_⟩⟩
  -- Without a link the target is what the entry came with.
  · by_cases hchain : options.chain = []
    · have hstages : r.stages = [] := by
        simpa [hchain] using length_record_stages hrecord
      have hmem := (record_perm hrecord).mem_iff.mp (List.mem_of_getElem? he)
      refine ⟨e, by simpa [Record.outcome, hstages] using he, rfl, ?_⟩
      rw [hfresh hchain e hmem]
    · obtain ⟨name, hname, hextension⟩ :=
        exists_name_extension hrecord hkeep he hfirm hsolid (Nat.le_refl _)
      exact ⟨e.renamed p name, (outcome_getElem?_iff hrecord hchain).mpr ⟨e, name, he, hname, rfl⟩,
        rfl, hextension⟩
  · intro i link hi
    obtain ⟨hlt, -⟩ := List.getElem?_eq_some_iff.mp hi
    obtain ⟨name, hname, hextension⟩ :=
      exists_name_extension hrecord hkeep he hfirm hsolid (Nat.le_of_lt hlt)
    obtain ⟨stage, made, hstage, hran, hmade, hby, -⟩ := exists_madeBy hrecord hi he hname
    -- What is kept out of the replacement is the extension of the name, which is that of the entry.
    have hkept : made.extension = Path.extension e.source :=
      (extension_of_madeBy hby (hran.keepExtension_eq.trans hkeep) hfirm.1).trans hextension
    obtain rfl : name = made.subject.matched ++ Path.extension e.source := by
      rw [← hkept, hby.matched_append]
    exact ⟨stage, made, hstage, hran, hmade, hname, hkept, hby⟩

/-- A slash in place of `tar`, and then blanks in place of what follows it. -/
def slashAndBlanks : RunOptions where
  chain := [⟨"tar".toList, "/b".toList⟩, ⟨"b".toList, " c ".toList⟩]
  mode := ⟨false, false⟩
  limit := 0
  keepExtension := true
  sort := none
  reverse := false

def archive : { e : Entry // KeepsExtension e } where
  val := .pending "d".toList "a.tar.gz".toList false
  property := by decide +kernel

theorem run_slashAndBlanks :
    (run .bare .silent slashAndBlanks [archive.val]).Answers []
      [⟨"a.tar.gz".toList, "a./ c .gz".toList, "d".toList, "d/a./ c .gz".toList, false, 0, .ok⟩]
      [] := by
  unfold Answers
  decide +kernel

private theorem texts_slashAndBlanks :
    ((fun r => r.stages.map fun stage => stage.renamings.map (·.resolution.text)) <$>
      record .bare .silent slashAndBlanks [archive.val]).Answers
        [] [["a./b".toList], ["a./ c ".toList]] [] := by
  unfold Answers
  decide +kernel

theorem extension_kept_slashAndBlanks :
    ∃ r : Record, r.entries = [archive.val] ∧ r.SolidAt 0 ∧
      ∀ (i : Nat) link, slashAndBlanks.chain[i]? = some link → ∃ (stage : Stage) (made : Renaming),
        r.stages[i]? = some stage ∧ stage.renamings[0]? = some made ∧
          (r.namesInto i)[0]? =
            some (made.subject.matched ++ Path.extension archive.val.source) := by
  -- The name goes through `a./b.gz`.
  obtain ⟨r, hrecord, -, hperm, hkept⟩ := extension_kept run_slashAndBlanks rfl (by decide)
  obtain ⟨r', hrecord', htexts⟩ := answers_map.mp texts_slashAndBlanks
  obtain ⟨rfl, -⟩ := hrecord.unique hrecord'
  have hentries := List.perm_singleton.mp hperm
  have hsolid : r.SolidAt 0 := by
    intro stage hstage made hmade
    have hall : ∀ text ∈ [["a./b".toList], ["a./ c ".toList]].flatten, Path.IsSolid text := by
      decide
    refine hall _ (htexts ▸ List.mem_flatten.mpr ⟨_, List.mem_map_of_mem hstage, ?_⟩)
    exact List.mem_map_of_mem (List.mem_of_getElem? hmade)
  obtain ⟨-, hlinks⟩ := hkept 0 archive (by rw [hentries]; rfl) archive.property hsolid
  refine ⟨r, hentries, hsolid, fun i link hi => ?_⟩
  obtain ⟨stage, made, hstage, -, hmade, hname, -, -⟩ := hlinks i link hi
  exact ⟨stage, made, hstage, hmade, hname⟩

end Batch

end Relabel
