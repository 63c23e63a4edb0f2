import Relabel.Proofs.Toml.Entries
import Relabel.Settings.Basic

/-!
# The document of the settings

The document that is written for settings holds an entry for each of them, but for a sort criterion
that is not set, and is read as the settings that it was written for.
-/

namespace Relabel.Settings

open TomlReader (Entries IsBareKey entry)

private theorem entries_limitEntry (n : Int) :
    Entries (limitEntry n) [("replace_limit".toList, .integer n)] := by
  have hfront : "replace_limit = ".toList = "replace_limit".toList ++ " = ".toList := rfl
  change Entries ("replace_limit = ".toList ++ Text.integer n ++ ['\n']) _
  rw [hfront]
  exact .single (by decide) (Toml.spelled_integer n)

private theorem entries_flagEntry (hkey : IsBareKey key.toList) (b : Bool) :
    Entries (flagEntry key b) [(key.toList, .boolean b)] := by
  have hentry : flagEntry key b =
      entry key.toList (if b then "true".toList else "false".toList) := by
    cases b <;> simp [flagEntry, entry]
  rw [hentry]
  exact .single hkey (Toml.spelled_boolean b)

def sortTable : Option SortCriterion → TomlTable
  | some criterion => [("sort".toList, .text criterion.label)]
  | none => []

private theorem entries_sortEntry (sort : Option SortCriterion) :
    Entries (sortEntry sort) (sortTable sort) := by
  cases sort with
  | none => exact .nil
  | some criterion =>
    have hlabel : criterion.label ≠ [] ∧ TomlQuoted.IsPlain criterion.label := by
      cases criterion <;> decide +kernel
    have hfront : "sort = \"".toList = "sort".toList ++ " = ".toList ++ ['"'] := rfl
    have hback : "\"\n".toList = ['"'] ++ ['\n'] := rfl
    have hentry : sortEntry (some criterion) =
        entry "sort".toList ('"' :: (criterion.label ++ ['"'])) := by
      change "sort = \"".toList ++ criterion.label ++ "\"\n".toList = _
      rw [hfront, hback, entry]
      simp only [List.append_assoc, List.cons_append, List.nil_append]
    rw [hentry]
    exact .single (by decide) (.quoted hlabel.1 hlabel.2)

def table (s : Settings) : TomlTable :=
  [("replace_limit".toList, .integer s.replaceLimit)] ++
    [("ignore_extension".toList, .boolean s.ignoreExtension)] ++
    [("ignore_case".toList, .boolean s.ignoreCase)] ++ sortTable s.sort ++
    [("reverse_sort".toList, .boolean s.reverseSort)] ++
    [("recursive".toList, .boolean s.recursive)] ++
    [("include_hidden".toList, .boolean s.includeHidden)] ++
    [("include_dirs".toList, .boolean s.includeDirectories)]

theorem entries_document (s : Settings) : Entries s.document s.table :=
  (entries_limitEntry _).append (entries_flagEntry (by decide) _)
    |>.append (entries_flagEntry (by decide) _)
    |>.append (entries_sortEntry _)
    |>.append (entries_flagEntry (by decide) _)
    |>.append (entries_flagEntry (by decide) _)
    |>.append (entries_flagEntry (by decide) _)
    |>.append (entries_flagEntry (by decide) _)

theorem read?_document_table (s : Settings) : TomlTable.read? s.document = some s.table := by
  -- The keys depend on whether there is a sort criterion only.
  have hunsorted : (default.table.map Prod.fst).Nodup := by decide
  have hsorted : ({ default with sort := some .natural }.table.map Prod.fst).Nodup := by decide
  refine s.entries_document.read?_eq ?_
  obtain ⟨limit, extension, case, sort, reverse, recursive, hidden, directories⟩ := s
  cases sort with
  | none => exact hunsorted
  | some criterion => exact hsorted

private theorem limit?_table {s : Settings} (hleast : leastLimit ≤ s.replaceLimit)
    (hgreatest : s.replaceLimit ≤ greatestLimit) : limit? s.table = some s.replaceLimit := by
  have hfind : s.table.find? "replace_limit".toList = some (.integer s.replaceLimit) := rfl
  rw [limit?, hfind]
  exact if_pos ⟨hleast, hgreatest⟩

private theorem flag?_table (s : Settings) :
    flag? s.table "ignore_extension" = some s.ignoreExtension ∧
      flag? s.table "ignore_case" = some s.ignoreCase ∧
      flag? s.table "reverse_sort" = some s.reverseSort ∧
      flag? s.table "recursive" = some s.recursive ∧
      flag? s.table "include_hidden" = some s.includeHidden ∧
      flag? s.table "include_dirs" = some s.includeDirectories := by
  obtain ⟨limit, extension, case, sort, reverse, recursive, hidden, directories⟩ := s
  cases sort <;> exact ⟨rfl, rfl, rfl, rfl, rfl, rfl⟩

private theorem sort?_table (s : Settings) : sort? s.table = some s.sort := by
  obtain ⟨limit, extension, case, sort, reverse, recursive, hidden, directories⟩ := s
  cases sort with
  | none => rfl
  | some criterion =>
    show (SortCriterion.ofLabel? criterion.label).map some = _
    rw [SortCriterion.ofLabel?_label]
    rfl

theorem read?_document {s : Settings} (hleast : leastLimit ≤ s.replaceLimit)
    (hgreatest : s.replaceLimit ≤ greatestLimit) : read? s.document = some s := by
  obtain ⟨hextension, hcase, hreverse, hrecursive, hhidden, hdirectories⟩ := flag?_table s
  simp [read?, read?_document_table, limit?_table hleast hgreatest, sort?_table, hextension, hcase,
    hreverse, hrecursive, hhidden, hdirectories]

end Relabel.Settings
