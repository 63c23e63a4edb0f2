import Relabel.Disk.Basic
import Relabel.Naming.Lookups
import Relabel.Numbering.Counters
import Relabel.Path.Extension
import Relabel.Pattern.Basic
import Relabel.Time.NameDate

/-!
# Values of variables

What every variable stands for in the name of one file.
-/

namespace Relabel

structure Setting where
  disk : Disk
  zone : Zone
  now : Moment

structure Subject where
  /-- The name that goes into the link of the chain. -/
  name : Text
  /-- The part of the name that the find pattern is applied to. -/
  matched : Text
  /-- Where the file is on the disk. -/
  path : Text
  isDirectory : Bool
deriving DecidableEq, Repr

namespace Subject

/-- The last component of the name without its extension; directories have none. -/
def stem (s : Subject) : Text :=
  let last := Path.lastComponent s.name
  if s.isDirectory then last else Path.stem last

def extension (s : Subject) : Text :=
  if s.isDirectory then [] else Path.extension (Path.lastComponent s.name)

end Subject

/-- The name of the directory so many levels above a path, from its spelling or, where that does
not tell, from its place on the disk. -/
def parentName (disk : Disk) (path : Text) (levels : Nat) : Text :=
  let name? (path : Text) : Option Text := (Path.ancestor? path levels).bind Path.fileName?
  ((name? path).or ((disk.canonical? path).bind name?)).getD []

/-- The scope of an index: what its group has captured in the file's name. -/
def Index.scope (index : Index) (search : Pattern) (s : Subject) : Option Text :=
  index.group.map (search.captured s.matched)

def Variable.value (setting : Setting) (search : Pattern) (s : Subject) (facts : Facts) :
    Variable → Text
  | stem t => Transform.applyAny t s.stem
  | extension t => Transform.applyAny t s.extension
  | parent levels t => Transform.applyAny t (parentName setting.disk s.path levels)
  | picture item field t => Transform.applyAny t ((facts.picture.bind (·.value field item)).getD [])
  | index _ => []
  | song tag t => Transform.applyAny t ((facts.song.bind (·.value tag)).getD [])
  | digest algorithm t => Transform.applyAny t ((facts.digests.lookup algorithm).getD [])
  | time item field t =>
    let moment := match facts.times with
      | some times => times.get setting.now item
      | none => setting.now
    Transform.applyAny t (field.render moment)
  | exifTool tag t => Transform.applyAny t ((facts.exifTool.bind (·.lookup tag)).getD [])
  | capture group format =>
    let text := search.captured s.matched (group.getD 0)
    match format with
    | .text t => t.apply text
    | .date field => ((Moment.readNamed? setting.zone text).map field.render).getD []
  | column number t => Transform.applyAny t ((facts.columns.lookup number).getD [])

/-- Gives the next number of each index in turn; an index is known by its place. -/
def Counters.advanceAll (scope : Index → Option Text) (slot : Nat) (counters : Counters) :
    List Index → List Int × Counters
  | [] => ([], counters)
  | index :: rest =>
    let (value, counters) := counters.advance index (slot, scope index)
    let (values, counters) := counters.advanceAll scope (slot + 1) rest
    (value :: values, counters)

namespace Tokens

def indexes (tokens : Tokens) : List Index := tokens.filterMap (·.wanted.index?)

/-- The texts of the tokens with their values, in the order in which they are put into a name. -/
def values (tokens : Tokens) (valueOf : Variable → Text) (numbers : List Int) :
    List (Text × Text) :=
  VariableKind.resolutionOrder.flatMap fun kind =>
    -- An index takes its number by its place; all other values depend on the variable alone.
    if kind = .index then
      ((tokens.ofKind .index).zip (List.zipWith Index.render tokens.indexes numbers)).map
        fun (token, text) => (token.text, text)
    else (tokens.ofKind kind).map fun token => (token.text, valueOf token.wanted)

end Tokens

def putValues (values : List (Text × Text)) (working : Text) : Text :=
  values.foldl (fun working value => Text.replaceAll value.1 value.2 working) working

structure Resolution where
  /-- The numbers that the indexes were given, in turn. -/
  numbers : List Int
  /-- The texts of the tokens with their values, in the order in which they were put in. -/
  values : List (Text × Text)
  /-- The working text with the values in it. -/
  text : Text

def resolution (setting : Setting) (search : Pattern) (tokens : Tokens) (s : Subject)
    (facts : Facts) (working : Text) (counters : Counters) : Resolution × Counters :=
  let (numbers, counters) :=
    counters.advanceAll (fun index => index.scope search s) 0 tokens.indexes
  let values := tokens.values (Variable.value setting search s facts) numbers
  (⟨numbers, values, putValues values working⟩, counters)

/-- Resolves the variables for one file and puts their values into the working text. -/
def resolve (setting : Setting) (source : MetadataSource) (search : Pattern) (tokens : Tokens)
    (s : Subject) (working : Text) (counters : Counters) : Lookups (Resolution × Counters) := do
  let facts ← Facts.fetch source s.path tokens
  return resolution setting search tokens s facts working counters

end Relabel
