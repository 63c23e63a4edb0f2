import Relabel.Disk.Basic
import Relabel.Failure
import Relabel.Rows.Reader
import Relabel.Text.Blank

/-!
# Row tables

The rows of a file, each under the path of the file that its first column names, taken from the
directory of the rows. Paths are told apart by their components; of two rows for one path the
later one counts.
-/

namespace Relabel

structure RowTable where
  rows : List (Text × List Text)
deriving DecidableEq, Repr

namespace RowTable

def empty : RowTable := ⟨[]⟩

def isFor (path : Text) (row : Text × List Text) : Bool :=
  Path.components row.1 == Path.components path

theorem isFor_iff {path : Text} {row : Text × List Text} :
    isFor path row = true ↔ Path.components row.1 = Path.components path := by
  simp [isFor]

def row? (table : RowTable) (path : Text) : Option (List Text) :=
  (table.rows.find? (isFor path)).map (·.2)

/-- Puts a row in the place of one for the same path, whose spelling stays, or behind the others. -/
def insert (table : RowTable) (path : Text) (columns : List Text) : RowTable :=
  if table.rows.any (isFor path) then
    ⟨table.rows.map fun row => if isFor path row then (row.1, columns) else row⟩
  else ⟨table.rows ++ [(path, columns)]⟩

theorem row?_insert (table : RowTable) (path other : Text) (columns : List Text) :
    (table.insert path columns).row? other =
      if Path.components other = Path.components path then some columns else table.row? other := by
  unfold insert
  split
  case isTrue h =>
    have hc : (isFor other ∘ fun row => if isFor path row then (row.1, columns) else row) =
        isFor other := by
      funext row
      change isFor other (if isFor path row then (row.1, columns) else row) = isFor other row
      split <;> rfl
    simp only [row?, List.find?_map, hc, Option.map_map]
    cases hf : table.rows.find? (isFor other) with
    | none =>
      have hn : Path.components other ≠ Path.components path := by
        intro he
        obtain ⟨row, hrow, hfor⟩ := List.any_eq_true.1 h
        exact List.find?_eq_none.1 hf row hrow (isFor_iff.2 ((isFor_iff.1 hfor).trans he.symm))
      simp [hn]
    | some row =>
      have ho := isFor_iff.1 (List.find?_some hf)
      by_cases he : Path.components other = Path.components path
      · simp [he, isFor_iff.2 (ho.trans he)]
      · have : isFor path row = false := by
          rw [Bool.eq_false_iff]
          exact fun hp => he (ho.symm.trans (isFor_iff.1 hp))
        simp [he, this]
  case isFalse h =>
    simp only [row?, List.find?_append, List.find?_singleton]
    by_cases he : Path.components other = Path.components path
    · have hn : table.rows.find? (isFor other) = none := by
        refine List.find?_eq_none.2 fun row hrow hfor => h ?_
        exact List.any_eq_true.2 ⟨row, hrow, isFor_iff.2 ((isFor_iff.1 hfor).trans he)⟩
      simp [hn, he, isFor]
    · simp [he, isFor, Ne.symm he]

/-- The path under which a file's row is kept: where the file is, if there is one. -/
def key (disk : Disk) (path : Text) : Text := (disk.canonical? path).getD path

def column (table : RowTable) (disk : Disk) (number : Nat) (path : Text) : Option Text :=
  match (table.row? path).or (table.row? (key disk path)) with
  | some columns => if number = 0 then none else columns[number - 1]?
  | none => none

/-- Adds a row; one whose first column is blank is for no file. -/
def addRow (disk : Disk) (base : Text) (table : RowTable) (columns : List Text) : RowTable :=
  let name := (columns.headD []).trim
  if name = [] then table else table.insert (key disk (Path.join base name)) columns

def addRows (disk : Disk) (path : Text) (table : RowTable) (number : Nat) :
    List (Option (List Text)) → Except Failure RowTable
  | [] => .ok table
  | none :: _ => .error (.unreadableRow number path)
  | some columns :: rest =>
    addRows disk path (table.addRow disk ((Path.parent? path).getD []) columns) (number + 1) rest

def load (disk : Disk) (path : Text) : Except Failure RowTable :=
  match disk.node? path with
  | none => .error (.unopenableRows path)
  | some (.file content _) => addRows disk path empty 1 (Rows.read content)
  | some _ => .error (.unreadableRow 1 path)

end RowTable

end Relabel
