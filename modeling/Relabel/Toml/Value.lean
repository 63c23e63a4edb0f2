import Relabel.Text.Basic

/-!
# TOML values

Values of a document, and how values and tables come into it. A table is open to further entries
only in the way in which it has been made.
-/

namespace Relabel

inductive TableOrigin
  | header
  /-- By the header of a table inside of it. -/
  | implied
  /-- By the key of an entry inside of it. -/
  | dotted
  | inline
deriving DecidableEq, Repr

inductive Toml
  | text (value : Text)
  | integer (value : Int)
  | real (spelling : Text)
  | boolean (value : Bool)
  | moment (spelling : Text)
  | array (items : List Toml)
  | table (origin : TableOrigin) (entries : List (Text × Toml))
  | tables (items : List (List (Text × Toml)))

abbrev TomlTable := List (Text × Toml)

namespace TomlTable

def find? (key : Text) (table : TomlTable) : Option Toml := table.lookup key

def set (key : Text) (value : Toml) : TomlTable → TomlTable
  | [] => [(key, value)]
  | (other, held) :: rest =>
    if key = other then (key, value) :: rest else (other, held) :: set key value rest

theorem find?_set (table : TomlTable) (key other : Text) (value : Toml) :
    (table.set key value).find? other =
      if other = key then some value else table.find? other := by
  induction table with
  | nil =>
    by_cases h : other = key
    · simp [set, find?, h]
    · simp [set, find?, List.lookup_cons, h, beq_eq_false_iff_ne.2 h]
  | cons entry rest ih =>
    obtain ⟨held, old⟩ := entry
    simp only [set]
    split
    case isTrue h =>
      subst h
      by_cases ho : other = key
      · simp [find?, ho]
      · simp [find?, List.lookup_cons, ho, beq_eq_false_iff_ne.2 ho]
    case isFalse h =>
      simp only [find?, List.lookup_cons] at ih ⊢
      by_cases ho : other = held
      · subst ho; simp [Ne.symm h]
      · simp [beq_eq_false_iff_ne.2 ho, ih]

/-- Adds an entry. The tables on the way to it are made by its key or were made by such keys. -/
def addEntry (value : Toml) : List Text → TomlTable → Option TomlTable
  | [], _ => none
  | [key], table =>
    match find? key table with
    | none => some (set key value table)
    | some _ => none
  | key :: rest, table =>
    match find? key table with
    | none => (addEntry value rest []).map fun inner => set key (.table .dotted inner) table
    | some (.table .dotted inner) =>
      (addEntry value rest inner).map fun inner => set key (.table .dotted inner) table
    | some (.table .implied inner) =>
      if rest.length = 1 then none
      else (addEntry value rest inner).map fun inner => set key (.table .implied inner) table
    | some _ => none

/-- Changes the entries of the table that a header names, or of the last of its tables. Tables on
the way to it may be implied. -/
def atHeader (change : TomlTable → Option TomlTable) : List Text → TomlTable → Option TomlTable
  | [], table => change table
  | key :: rest, table =>
    match find? key table with
    | none => (atHeader change rest []).map fun inner => set key (.table .implied inner) table
    | some (.table .inline _) => none
    | some (.table origin inner) =>
      (atHeader change rest inner).map fun inner => set key (.table origin inner) table
    | some (.tables items) =>
      match items.getLast? with
      | some last =>
        (atHeader change rest last).map fun last =>
          set key (.tables (items.dropLast ++ [last])) table
      | none => none
    | some _ => none

def openTable (key : Text) (table : TomlTable) : Option TomlTable :=
  match find? key table with
  | none => some (set key (.table .header []) table)
  | some (.table .implied inner) => some (set key (.table .header inner) table)
  | some _ => none

def openNext (key : Text) (table : TomlTable) : Option TomlTable :=
  match find? key table with
  | none => some (set key (.tables [[]]) table)
  | some (.tables items) => some (set key (.tables (items ++ [[]])) table)
  | some _ => none

end TomlTable

end Relabel
