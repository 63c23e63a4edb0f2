import Relabel.Proofs.Batch.Stages
import Relabel.Proofs.Naming.NameOnly
import Relabel.Proofs.Path.Clean

/-!
# Recorded targets

A target is a name that was cleaned first and trimmed then. It has no white space at its ends, but
trimming can bring forth at an end just what cleaning has taken away. A target is clean unless that
has happened to the name that the last link wrote.
-/

namespace Relabel.Batch

open Lookups

variable {setting : Setting} {source : MetadataSource} {options : RunOptions}
variable {entries : List Entry}

theorem trim_target (made : Renaming) : made.target.trim = made.target :=
  Text.trim_trim _

theorem clean_target_iff (made : Renaming) :
    Path.clean made.target = made.target ↔ Path.EndsIntact (Path.clean made.written).trim := by
  rw [Path.clean_eq_self_iff]
  exact Path.isClean_trim_iff (Path.isClean_clean made.written)

/-- Every recorded target is trimmed, and it is clean just when trimming has left the ends of the
cleaned name intact. -/
theorem recorded_target_clean_iff
    (hrun : (run setting source options entries).Answers log out log')
    (hchain : options.chain ≠ []) :
    ∃ r stage, (record setting source options entries).Answers log r log' ∧
      r.stages.getLast? = some stage ∧ stage.renamings.length = out.length ∧
      ∀ (p : Nat) e, out[p]? = some e → ∃ made, stage.renamings[p]? = some made ∧
        e.target = made.target ∧ e.target.trim = e.target ∧
        (Path.clean e.target = e.target ↔ Path.EndsIntact (Path.clean made.written).trim) := by
  obtain ⟨r, hrecord, rfl⟩ := answers_map.mp hrun
  obtain ⟨stage, hlast, hlength⟩ := exists_last_stage hrecord hchain
  refine ⟨r, stage, hrecord, hlast, ?_, fun p e he => ?_⟩
  · simp [Record.outcome, hlast, Stage.targets, hlength]
  · obtain ⟨before, made, -, hmade, rfl⟩ := (outcome_getElem?_eq_some hlast).mp he
    exact ⟨made, hmade, rfl, trim_target made, clean_target_iff made⟩

def blankBehindSlash : RunOptions where
  chain := [⟨"x".toList, "a/ ".toList⟩]
  mode := ⟨false, false⟩
  limit := 0
  keepExtension := false
  sort := none
  reverse := false

theorem run_blankBehindSlash :
    (run .bare .silent blankBehindSlash [.pending "dir".toList "x".toList false]).Answers []
      [⟨"x".toList, "a/".toList, "dir".toList, "dir/a/".toList, false, 0, .ok⟩] [] := by
  unfold Answers
  decide +kernel

theorem recorded_target_clean_iff_blankBehindSlash :
    ∃ r stage,
      (record .bare .silent blankBehindSlash [.pending "dir".toList "x".toList false]).Answers []
        r [] ∧
      r.stages.getLast? = some stage ∧ stage.renamings.length = 1 ∧
      ∀ (p : Nat) e, [(⟨"x".toList, "a/".toList, "dir".toList, "dir/a/".toList, false, 0, .ok⟩ :
          Entry)][p]? = some e → ∃ made, stage.renamings[p]? = some made ∧
        e.target = made.target ∧ e.target.trim = e.target ∧
        (Path.clean e.target = e.target ↔ Path.EndsIntact (Path.clean made.written).trim) :=
  recorded_target_clean_iff run_blankBehindSlash (by decide)

/-- Trimming takes the blank behind the slash, and what is left is not clean. -/
theorem not_all_recorded_targets_clean :
    ¬∀ (setting : Setting) (source : MetadataSource) (options : RunOptions) (entries out : List Entry)
      (log log' : List Lookup), options.chain ≠ [] →
      (run setting source options entries).Answers log out log' →
      ∀ e ∈ out, e.target.trim = e.target ∧ Path.clean e.target = e.target := by
  intro h
  -- `clean` leaves the blank after the slash as a name, and trimming takes it away.
  have hclean := h .bare .silent blankBehindSlash _ _ [] [] (by decide) run_blankBehindSlash _
    List.mem_cons_self
  exact absurd hclean.2 (by decide)

end Relabel.Batch
