import Relabel.Batch.Run

/-!
# Notes are taken and not read

What comes of lookups does not depend on the notes that are there before, and the new notes go
behind the old ones. So what a file gets can be found out wherever in a run the file stands.
-/

namespace Relabel

namespace Lookups

/-- The notes that are there before have no say. -/
def Unread (x : Lookups α) : Prop :=
  ∀ log, x.after log = ((x.after []).1, log ++ (x.after []).2)

private theorem unread_pure (a : α) : (pure a : Lookups α).Unread := fun log => by simp

private theorem unread_bind {x : Lookups α} {f : α → Lookups β} (hx : x.Unread)
    (hf : ∀ a, (f a).Unread) : (x >>= f).Unread := by
  intro log
  rw [after_bind, after_bind, hx log]
  obtain ⟨answer | answer, middle⟩ := x.after []
  · rfl
  · simp only [hf answer (log ++ middle), hf answer middle, List.append_assoc]

theorem unread_map {x : Lookups α} (hx : x.Unread) (f : α → β) : (f <$> x).Unread := by
  rw [map_eq_pure_bind]
  exact unread_bind hx fun _ => unread_pure _

private theorem unread_note {query : Query} {path : Text} : (note query path).Unread := fun _ => rfl

private theorem unread_throw (cause : RunError) : (throw cause : Lookups α).Unread := fun log => by
  show (Except.error cause, log) = (Except.error cause, log ++ [])
  rw [List.append_nil]

private theorem unread_ask {query : Query} {path : Text} {answer : Except Failure α} :
    (ask query path answer).Unread := by
  refine unread_bind unread_note fun _ => ?_
  cases answer with
  | ok a => exact unread_pure a
  | error cause => exact unread_throw _

private theorem unread_foldlM {f : β → α → Lookups β} (hf : ∀ b a, (f b a).Unread) (items : List α)
    (b : β) : (items.foldlM f b).Unread := by
  induction items generalizing b with
  | nil => exact unread_pure b
  | cons a items ih => exact unread_bind (hf b a) fun b => ih b

def outcome (x : Lookups α) : Except RunError α := (x.after []).1

theorem Unread.outcome_eq_ok {x : Lookups α} (h : x.Unread) (log : List Lookup) :
    x.outcome = .ok a ↔ ∃ log', x.Answers log a log' := by
  simp only [Answers, h log, outcome, Prod.mk.injEq, exists_and_left, exists_eq', and_true]

end Lookups

open Lookups

theorem Facts.unread_learn (source : MetadataSource) (path : Text) (facts : Facts) (query : Query) :
    (facts.learn source path query).Unread := by
  cases query with
  | column number => exact unread_bind unread_note fun _ => unread_pure _
  | _ => exact unread_bind unread_ask fun _ => unread_pure _

theorem Facts.unread_fetch (source : MetadataSource) (path : Text) (tokens : Tokens) :
    (fetch source path tokens).Unread := by
  refine unread_foldlM (fun facts v => ?_) _ _
  unfold lookUp
  split
  · exact unread_pure facts
  · split
    · exact unread_pure facts
    · exact unread_learn source path facts _

theorem Batch.unread_renameOne (setting : Setting) (source : MetadataSource) (step : Step)
    (e : Entry) (name : Text) (counters : Counters) :
    (renameOne setting source step e name counters).Unread := by
  unfold renameOne resolve
  have hfetch := Facts.unread_fetch source (step.subject e name).path step.tokens
  exact unread_bind (unread_bind hfetch fun _ => unread_pure _) fun _ => unread_pure _

end Relabel
