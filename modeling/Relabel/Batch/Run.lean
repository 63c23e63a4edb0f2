import Relabel.Batch.Chain
import Relabel.Batch.Order
import Relabel.Naming.Value
import Relabel.Path.Clean
import Relabel.Pattern.Replacement
import Relabel.Pattern.Search

/-!
# Running a batch

A batch is ordered, and then every link of the chain makes new names out of the names that it
gets. Templates are read before the first link runs, find patterns when their link's turn comes.
-/

namespace Relabel

structure RunOptions where
  chain : Chain
  mode : FindMode
  limit : Int
  /-- Whether the extensions of files are kept out of the replacement. -/
  keepExtension : Bool
  sort : Option SortCriterion
  reverse : Bool
deriving DecidableEq, Repr

namespace Batch

structure Step where
  search : Pattern
  tokens : Tokens
  template : Text
  limit : Int
  keepExtension : Bool

/-- The stem and the extension of a name; an extension that is not kept belongs to the stem. -/
def splitName (keepExtension isDirectory : Bool) (name : Text) : Text × Text :=
  if keepExtension && !isDirectory then (Path.stem name, Path.extension name) else (name, [])

def Step.subject (step : Step) (e : Entry) (name : Text) : Subject :=
  ⟨name, (splitName step.keepExtension e.isDirectory name).1, e.sourcePath, e.isDirectory⟩

def Step.extension (step : Step) (e : Entry) (name : Text) : Text :=
  (splitName step.keepExtension e.isDirectory name).2

structure Renaming where
  subject : Subject
  extension : Text
  resolution : Resolution

namespace Renaming

/-- The name that the link has made, as the variables and the extension leave it. -/
def written (r : Renaming) : Text := r.resolution.text ++ r.extension

def target (r : Renaming) : Text := Text.trim (Path.clean r.written)

end Renaming

def renameOne (setting : Setting) (source : MetadataSource) (step : Step) (e : Entry) (name : Text)
    (counters : Counters) : Lookups (Renaming × Counters) := do
  let s := step.subject e name
  let (found, counters) ← resolve setting source step.search step.tokens s
    (step.search.replace step.limit step.template s.matched) counters
  return (⟨s, step.extension e name, found⟩, counters)

def renameAll (setting : Setting) (source : MetadataSource) (step : Step) (counters : Counters) :
    List (Entry × Text) → Lookups (List Renaming)
  | [] => return []
  | (e, name) :: rest => do
    let (made, counters) ← renameOne setting source step e name counters
    return made :: (← renameAll setting source step counters rest)

def prepare (options : RunOptions) (link : Link) (tokens : Tokens) : Except RunError Step :=
  match Pattern.compile options.mode link.find with
  | .error cause => .error (.pattern cause)
  | .ok search =>
    .ok ⟨search, tokens, Template.protect link.replacement tokens, options.limit,
      options.keepExtension⟩

structure Stage where
  step : Step
  renamings : List Renaming

def Stage.targets (stage : Stage) : List Text := stage.renamings.map Renaming.target

/-- Runs the links one after the other, each on the names that the one before it has made. -/
def runLinks (setting : Setting) (source : MetadataSource) (options : RunOptions)
    (entries : List Entry) (names : List Text) : List (Link × Tokens) → Lookups (List Stage)
  | [] => return []
  | (link, tokens) :: rest => do
    let step ← prepare options link tokens
    -- Numbers begin anew in every link.
    let stage := ⟨step, ← renameAll setting source step .fresh (entries.zip names)⟩
    return stage :: (← runLinks setting source options entries stage.targets rest)

def readTemplate (link : Link) : Except RunError Tokens :=
  (Template.tokens link.replacement).mapError .template

def sortedBy (disk : Disk) (options : RunOptions) (entries : List Entry) :
    Except RunError (List Entry) :=
  match options.sort with
  | some criterion => (sortEntries disk criterion options.reverse entries).mapError .sorting
  | none => .ok entries

/-- What a run has done: the batch in its order and what every link has made of it. -/
structure Record where
  entries : List Entry
  stages : List Stage

/-- Every entry with the name that the last link has made. An empty chain leaves the batch as it
is ordered. -/
def Record.outcome (r : Record) : List Entry :=
  match r.stages.getLast? with
  | none => r.entries
  | some stage => (r.entries.zip stage.targets).zipIdx.map
      fun ((e, target), position) => e.renamed position target

/-- Runs all links on a batch and keeps what they have done. -/
def record (setting : Setting) (source : MetadataSource) (options : RunOptions)
    (entries : List Entry) : Lookups Record := do
  let entries ← sortedBy setting.disk options entries
  -- A template that cannot be read ends the run before any file is asked about.
  let tokens ← options.chain.mapM fun link => (readTemplate link : Lookups Tokens)
  -- An index in any link numbers the whole batch with the parents first.
  let entries := if tokens.any Tokens.hasIndex then parentsFirst entries else entries
  let stages ← runLinks setting source options entries (entries.map (·.source))
    (options.chain.zip tokens)
  return ⟨entries, stages⟩

/-- Computes the new name of every entry. -/
def run (setting : Setting) (source : MetadataSource) (options : RunOptions)
    (entries : List Entry) : Lookups (List Entry) :=
  Record.outcome <$> record setting source options entries

end Batch

end Relabel
