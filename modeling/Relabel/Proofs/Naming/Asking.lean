import Relabel.Proofs.Naming.Lookups

/-!
# Lookups with an agenda

Lookups ask one question after the other up to the first that cannot be answered. Which questions
these would be, if all were answered, is told beforehand: `Lookups.Asks` says so for one run of
lookups, and what follows upon another asks behind it.
-/

namespace Relabel

/-- Why the question cannot be answered. A column that is missing is an answer. -/
def MetadataSource.failure? (source : MetadataSource) (l : Lookup) : Option Failure :=
  let cause {α : Type} : Except Failure α → Option Failure
    | .ok _ => none
    | .error cause => some cause
  match l.query with
  | .times => cause (source.times l.path)
  | .digest algorithm => cause (source.digest algorithm l.path)
  | .picture => cause (source.picture l.path)
  | .exifTool => cause (source.exifTool l.path)
  | .song => cause (source.song l.path)
  | .column _ => none

def MetadataSource.AnswersAll (source : MetadataSource) (agenda : List Lookup) : Prop :=
  ∀ l ∈ agenda, source.failure? l = none

namespace Lookups

/-- The questions of the agenda are asked in turn, up to the first that fails. If all are answered,
the lookups end with the error, or well if there is none. -/
structure Asks (source : MetadataSource) (agenda : List Lookup) (stop : Option RunError)
    (x : Lookups α) : Prop where
  failed : ∀ log front l back cause, agenda = front ++ l :: back → source.AnswersAll front →
    source.failure? l = some cause →
    x.after log = (.error (.lookup l.path cause), log ++ (front ++ [l]))
  stopped : ∀ log cause, source.AnswersAll agenda → stop = some cause →
    x.after log = (.error cause, log ++ agenda)
  done : ∀ log, source.AnswersAll agenda → stop = none →
    ∃ a, x.Answers log a (log ++ agenda)

variable {source : MetadataSource} {agenda agenda' : List Lookup} {stop : Option RunError}

theorem asks_pure (a : α) : Asks source [] none (pure a : Lookups α) where
  failed _ front _ _ _ hagenda := by simp at hagenda
  stopped _ _ _ hstop := by cases hstop
  done log _ _ := ⟨a, by simp⟩

theorem asks_error (cause : RunError) :
    Asks source [] (some cause) (liftM (.error cause : Except RunError α) : Lookups α) where
  failed _ front _ _ _ hagenda := by simp at hagenda
  stopped log _ _ hstop := by
    obtain rfl := Option.some.inj hstop
    rw [List.append_nil]
    rfl
  done _ _ hstop := by cases hstop

theorem answersAll_nil (source : MetadataSource) : source.AnswersAll [] := fun _ h => by cases h

theorem answersAll_append : source.AnswersAll (agenda ++ agenda') ↔
    source.AnswersAll agenda ∧ source.AnswersAll agenda' :=
  List.forall_mem_append

theorem asks_bind {x : Lookups α} {f : α → Lookups β} (hx : Asks source agenda none x)
    (hf : ∀ a log log', x.Answers log a log' → Asks source agenda' stop (f a)) :
    Asks source (agenda ++ agenda') stop (x >>= f) := by
  have hthen (log : List Lookup) (hall : source.AnswersAll agenda) :
      ∃ a, Asks source agenda' stop (f a) ∧ (x >>= f).after log = (f a).after (log ++ agenda) := by
    obtain ⟨a, ha⟩ := hx.done log hall rfl
    refine ⟨a, hf a _ _ ha, ?_⟩
    rw [after_bind, show x.after log = _ from ha]
  refine ⟨fun log front l back cause hagenda hfront hl => ?_, fun log cause hall hstop => ?_,
    fun log hall hstop => ?_⟩
  · rcases List.append_eq_append_iff.mp hagenda with ⟨middle, rfl, hmiddle⟩ | ⟨middle, rfl, hmiddle⟩
    · -- The first lookups are behind it.
      obtain ⟨hall, hmiddles⟩ := answersAll_append.mp hfront
      obtain ⟨a, hasks, hafter⟩ := hthen log hall
      rw [hafter, hasks.failed _ middle l back cause hmiddle hmiddles hl]
      simp
    · cases middle with
      | nil =>
        obtain ⟨a, hasks, hafter⟩ := hthen log (by simpa using hfront)
        rw [hafter, hasks.failed _ [] l back cause hmiddle.symm (answersAll_nil source) hl]
        simp
      | cons first middle =>
        obtain ⟨rfl, -⟩ := List.cons.inj hmiddle
        rw [after_bind, hx.failed log front l middle cause rfl hfront hl]
  · obtain ⟨hfirst, hsecond⟩ := answersAll_append.mp hall
    obtain ⟨a, hasks, hafter⟩ := hthen log hfirst
    rw [hafter, hasks.stopped _ cause hsecond hstop, List.append_assoc]
  · obtain ⟨hfirst, hsecond⟩ := answersAll_append.mp hall
    obtain ⟨a, hasks, hafter⟩ := hthen log hfirst
    obtain ⟨b, hb⟩ := hasks.done (log ++ agenda) hsecond hstop
    exact ⟨b, by rw [Answers, hafter, ← List.append_assoc]; exact hb⟩

theorem asks_bind_error {x : Lookups α} (hx : Asks source agenda (some cause) x)
    (f : α → Lookups β) : Asks source agenda (some cause) (x >>= f) where
  failed log front l back cause hagenda hfront hl := by
    rw [after_bind, hx.failed log front l back cause hagenda hfront hl]
  stopped log cause hall hstop := by rw [after_bind, hx.stopped log cause hall hstop]
  done _ _ hstop := by cases hstop

theorem asks_bind_quiet {x : Lookups α} {f : α → Lookups β} (hx : Asks source agenda stop x)
    (hf : ∀ a, Asks source [] none (f a)) : Asks source agenda stop (x >>= f) := by
  cases stop with
  | some cause => exact asks_bind_error hx f
  | none =>
    rw [← List.append_nil agenda]
    exact asks_bind hx fun a _ _ _ => hf a

theorem asks_map {x : Lookups α} (hx : Asks source agenda stop x) (f : α → β) :
    Asks source agenda stop (f <$> x) := by
  rw [map_eq_pure_bind]
  exact asks_bind_quiet hx fun a => asks_pure (f a)

def cause? : Except Failure α → Option Failure
  | .ok _ => none
  | .error cause => some cause

theorem asks_ask {query : Query} {path : Text} {answer : Except Failure α}
    (h : source.failure? ⟨query, path⟩ = cause? answer) :
    Asks source [⟨query, path⟩] none (ask query path answer) where
  failed log front l back cause hagenda _ hl := by
    obtain ⟨rfl, rfl, rfl⟩ : front = [] ∧ l = ⟨query, path⟩ ∧ back = [] := by
      cases front <;> simp_all
    cases answer with
    | ok a => rw [h] at hl; cases hl
    | error cause =>
      rw [h] at hl
      obtain rfl := Option.some.inj hl
      rfl
  stopped _ _ _ hstop := by cases hstop
  done log hall _ := by
    have hnone := hall _ List.mem_cons_self
    cases answer with
    | ok a => exact ⟨a, rfl⟩
    | error cause => rw [h] at hnone; cases hnone

theorem asks_note_column (number : Nat) (path : Text) :
    Asks source [⟨.column number, path⟩] none (note (.column number) path) := by
  have hask : Asks source [⟨.column number, path⟩] none (ask (.column number) path (.ok ())) :=
    asks_ask rfl
  exact hask

end Lookups

end Relabel
