import Relabel.Batch.Order
import Relabel.Toml.Reader

/-!
# Settings

The defaults of every run, and the document that they are kept in. A setting that a document leaves
out has its default; entries that are no settings do not count.
-/

namespace Relabel

structure Settings where
  replaceLimit : Int
  ignoreExtension : Bool
  ignoreCase : Bool
  sort : Option SortCriterion
  reverseSort : Bool
  recursive : Bool
  includeHidden : Bool
  includeDirectories : Bool
deriving DecidableEq, Repr

namespace Settings

def default : Settings := ⟨0, false, false, none, false, false, false, false⟩

def leastLimit : Int := -9223372036854775808

def greatestLimit : Int := 9223372036854775807

def limitEntry (n : Int) : Text := "replace_limit = ".toList ++ Text.integer n ++ ['\n']

def flagEntry (key : String) (b : Bool) : Text :=
  key.toList ++ " = ".toList ++ (if b then "true\n".toList else "false\n".toList)

def sortEntry : Option SortCriterion → Text
  | some criterion => "sort = \"".toList ++ criterion.label ++ "\"\n".toList
  | none => []

def document (s : Settings) : Text :=
  limitEntry s.replaceLimit ++ flagEntry "ignore_extension" s.ignoreExtension ++
    flagEntry "ignore_case" s.ignoreCase ++ sortEntry s.sort ++
    flagEntry "reverse_sort" s.reverseSort ++ flagEntry "recursive" s.recursive ++
    flagEntry "include_hidden" s.includeHidden ++ flagEntry "include_dirs" s.includeDirectories

def limit? (table : TomlTable) : Option Int :=
  match table.find? "replace_limit".toList with
  | none => some 0
  | some (.integer n) => if leastLimit ≤ n ∧ n ≤ greatestLimit then some n else none
  | some _ => none

def flag? (table : TomlTable) (key : String) : Option Bool :=
  match table.find? key.toList with
  | none => some false
  | some (.boolean b) => some b
  | some _ => none

def sort? (table : TomlTable) : Option (Option SortCriterion) :=
  match table.find? "sort".toList with
  | none => some none
  | some (.text label) | some (.table _ [(label, .array [])])
  | some (.table _ [(label, .table _ [])]) => (SortCriterion.ofLabel? label).map some
  | some _ => none

def read? (document : Text) : Option Settings := do
  let table ← TomlTable.read? document
  return {
    replaceLimit := ← limit? table
    ignoreExtension := ← flag? table "ignore_extension"
    ignoreCase := ← flag? table "ignore_case"
    sort := ← sort? table
    reverseSort := ← flag? table "reverse_sort"
    recursive := ← flag? table "recursive"
    includeHidden := ← flag? table "include_hidden"
    includeDirectories := ← flag? table "include_dirs" }

end Settings

end Relabel
