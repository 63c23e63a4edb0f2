import Relabel.Metadata.Source
import Relabel.Naming.Error

/-!
# Lookups

A run asks its source of metadata one question after the other and takes note of each. The first
failure ends the run; the notes remain.
-/

namespace Relabel

abbrev Lookups := ExceptT RunError (StateM (List Lookup))

namespace Lookups

def note (query : Query) (path : Text) : Lookups Unit :=
  fun log => (.ok (), log ++ [⟨query, path⟩])

def ask (query : Query) (path : Text) (answer : Except Failure α) : Lookups α := do
  note query path
  match answer with
  | .ok a => return a
  | .error cause => throw (.lookup path cause)

def after (x : Lookups α) (log : List Lookup) : Except RunError α × List Lookup := x.run.run log

/-- After the notes `log` it answers `a` and leaves the notes `log'`. -/
def Answers (x : Lookups α) (log : List Lookup) (a : α) (log' : List Lookup) : Prop :=
  x.after log = (.ok a, log')

@[simp] theorem after_pure : (pure a : Lookups α).after log = (.ok a, log) := rfl

theorem after_bind (x : Lookups α) (f : α → Lookups β) :
    (x >>= f).after log = match x.after log with
      | (.ok a, middle) => (f a).after middle
      | (.error cause, middle) => (.error cause, middle) := by
  simp only [after, ExceptT.run_bind, StateT.run_bind]
  generalize x.run.run log = found
  obtain ⟨answer | answer, middle⟩ := found <;> rfl

@[simp] theorem answers_pure : (pure a : Lookups α).Answers log b log' ↔ a = b ∧ log = log' := by
  simp [Answers]

theorem answers_bind {x : Lookups α} {f : α → Lookups β} :
    (x >>= f).Answers log b log' ↔
      ∃ a middle, x.Answers log a middle ∧ (f a).Answers middle b log' := by
  simp only [Answers, after_bind]
  obtain ⟨answer | answer, middle⟩ := x.after log <;> simp [and_assoc]

theorem answers_map {x : Lookups α} {f : α → β} :
    (f <$> x).Answers log b log' ↔ ∃ a, x.Answers log a log' ∧ f a = b := by
  rw [map_eq_pure_bind, answers_bind]
  simp

@[simp] theorem answers_lift {x : Except RunError α} :
    (liftM x : Lookups α).Answers log a log' ↔ x = .ok a ∧ log = log' := by
  show (x, log) = (Except.ok a, log') ↔ _
  simp

@[simp] theorem answers_throw : (throw e : Lookups α).Answers log a log' ↔ False := by
  show (Except.error e, log) = (Except.ok a, log') ↔ _
  simp

theorem Answers.unique {x : Lookups α} (ha : x.Answers log a log') (hb : x.Answers log b log'') :
    a = b ∧ log' = log'' := by
  simpa using ha.symm.trans hb

end Lookups

def Variable.question? : Variable → Option Query
  | time item .. => if item = .now then none else some .times
  | digest algorithm _ => some (.digest algorithm)
  | picture .. => some .picture
  | exifTool .. => some .exifTool
  | song .. => some .song
  | column number _ => some (.column number)
  | stem _ | extension _ | parent .. | index _ | capture .. => none

structure Facts where
  times : Option FileTimes
  digests : List (DigestAlgorithm × Text)
  picture : Option PictureData
  exifTool : Option (List (Text × Text))
  song : Option SongData
  columns : List (Nat × Text)

namespace Facts

def none : Facts := ⟨.none, [], .none, .none, .none, []⟩

-- A column is asked for whenever it is named.
def knows (facts : Facts) : Query → Bool
  | .times => facts.times.isSome
  | .digest algorithm => (facts.digests.lookup algorithm).isSome
  | .picture => facts.picture.isSome
  | .exifTool => facts.exifTool.isSome
  | .song => facts.song.isSome
  | .column _ => false

/-- Asks a question and keeps the answer. -/
def learn (source : MetadataSource) (path : Text) (facts : Facts) : Query → Lookups Facts
  | .times => do
    let times ← Lookups.ask .times path (source.times path)
    return { facts with times := some times }
  | .digest algorithm => do
    let digest ← Lookups.ask (.digest algorithm) path (source.digest algorithm path)
    return { facts with digests := (algorithm, digest) :: facts.digests }
  | .picture => do
    let picture ← Lookups.ask .picture path (source.picture path)
    return { facts with picture := some picture }
  | .exifTool => do
    let tags ← Lookups.ask .exifTool path (source.exifTool path)
    return { facts with exifTool := some tags }
  | .song => do
    let song ← Lookups.ask .song path (source.song path)
    return { facts with song := some song }
  | .column number => do
    Lookups.note (.column number) path
    let column := (source.column number path).getD []
    return { facts with columns := (number, column) :: facts.columns }

def lookUp (source : MetadataSource) (path : Text) (facts : Facts) (v : Variable) :
    Lookups Facts :=
  match v.question? with
  | .none => pure facts
  | .some query => if facts.knows query then pure facts else facts.learn source path query

/-- Looks up one variable after the other, in the order in which they are resolved. -/
def fetch (source : MetadataSource) (path : Text) (tokens : Tokens) : Lookups Facts :=
  let wanted := (VariableKind.resolutionOrder.flatMap tokens.ofKind).map (·.wanted)
  wanted.foldlM (lookUp source path) none

end Facts

end Relabel
