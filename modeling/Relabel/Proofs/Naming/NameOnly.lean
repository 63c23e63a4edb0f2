import Mathlib.Data.List.Basic
import Relabel.Proofs.Template.Tokens

/-!
# Variables told by the name

Stems, extensions, numbers and captured groups are told by the name that goes into a link. Tokens
that ask for nothing else are resolved without a question, and it does not matter where the file
lies.
-/

namespace Relabel

namespace Variable

def needsNameOnly : Variable → Bool
  | stem _ | extension _ | index _ | capture .. => true
  | parent .. | picture .. | song .. | digest .. | time .. | exifTool .. | column .. => false

theorem value_withPath (setting : Setting) (search : Pattern) (s : Subject) (facts : Facts)
    (path : Text) {v : Variable} (h : v.needsNameOnly = true) :
    v.value setting search { s with path } facts = v.value setting search s facts := by
  cases v <;> first | rfl | cases h

end Variable

namespace Tokens

def NameOnly (tokens : Tokens) : Prop := ∀ token ∈ tokens, token.wanted.needsNameOnly = true

instance (tokens : Tokens) : Decidable tokens.NameOnly := by
  unfold NameOnly
  infer_instance

theorem values_congr {tokens : Tokens} {f g : Variable → Text}
    (h : ∀ token ∈ tokens, f token.wanted = g token.wanted) (numbers : List Int) :
    tokens.values f numbers = tokens.values g numbers := by
  refine List.flatMap_congr fun kind _ => ?_
  split
  · rfl
  · exact List.map_congr_left fun token htoken => by
      rw [h token (List.mem_of_mem_filter htoken)]

end Tokens

private theorem Facts.foldlM_lookUp_of_quiet {queue : List Variable}
    (h : ∀ v ∈ queue, v.question? = .none) (source : MetadataSource) (path : Text) (facts : Facts) :
    queue.foldlM (lookUp source path) facts = pure facts := by
  induction queue with
  | nil => rfl
  | cons v queue ih =>
    obtain ⟨hv, hqueue⟩ := List.forall_mem_cons.mp h
    rw [List.foldlM_cons, lookUp, hv]
    exact ih hqueue

theorem Facts.fetch_of_nameOnly {tokens : Tokens} (h : tokens.NameOnly) (source : MetadataSource)
    (path : Text) : fetch source path tokens = pure .none := by
  have hquiet : ∀ v ∈ (VariableKind.resolutionOrder.flatMap tokens.ofKind).map (·.wanted),
      v.question? = .none := by
    intro v hv
    obtain ⟨token, htoken, rfl⟩ := List.mem_map.mp hv
    obtain ⟨kind, -, htoken⟩ := List.mem_flatMap.mp htoken
    have hname := h token (List.mem_of_mem_filter htoken)
    cases hwanted : token.wanted <;> rw [hwanted] at hname <;> first | rfl | cases hname
  exact foldlM_lookUp_of_quiet hquiet source path .none

theorem resolution_withPath (setting : Setting) (search : Pattern) {tokens : Tokens}
    (h : tokens.NameOnly) (s : Subject) (facts : Facts) (working : Text) (counters : Counters)
    (path : Text) :
    resolution setting search tokens { s with path } facts working counters =
      resolution setting search tokens s facts working counters := by
  have hvalues := Tokens.values_congr
    (fun token htoken => Variable.value_withPath setting search s facts path (h token htoken))
    (counters.advanceAll (fun index => index.scope search s) 0 tokens.indexes).1
  exact congrArg (fun values => (⟨⟨_, values, putValues values working⟩, _⟩ : Resolution × Counters))
    hvalues

theorem resolve_of_nameOnly (setting : Setting) (source : MetadataSource) (search : Pattern)
    {tokens : Tokens} (h : tokens.NameOnly) (s : Subject) (working : Text) (counters : Counters) :
    resolve setting source search tokens s working counters =
      pure (resolution setting search tokens s .none working counters) := by
  rw [resolve, Facts.fetch_of_nameOnly h, pure_bind]

-- ---------------------------------------------------------------------------
-- Where nothing is to be learnt
-- ---------------------------------------------------------------------------

def Setting.bare : Setting := ⟨⟨.directory .nil (.at 0), []⟩, .utc, ⟨0, 0, 0⟩⟩

def MetadataSource.silent : MetadataSource where
  times path := .error (.unreadableTimes path)
  digest _ path := .error (.unopenableForDigest path)
  picture _ := .ok .empty
  exifTool _ := .ok []
  song _ := .ok .empty
  column _ _ := none

end Relabel
