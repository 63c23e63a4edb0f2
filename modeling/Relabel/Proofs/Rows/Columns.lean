import Relabel.Metadata.Disk
import Relabel.Proofs.Disk.Following

/-!
# Columns of a file

A row is kept under where its file is, and a file is asked for in any spelling. The spelling may be
that of the place itself, which leads nowhere else (`file_of_components_eq`), so a file has the
columns of the last record for it, however its path is spelled (`column_by_file`).
-/

namespace Relabel

open Relabel.Path (IsFileName)

-- ---------------------------------------------------------------------------
-- Canonical paths
-- ---------------------------------------------------------------------------

namespace Disk

variable {disk : Disk}

theorem components_of_canonical? (hcurrent : ∀ name ∈ disk.current, IsFileName name)
    (h : disk.canonical? path = some file) :
    ∃ place, disk.locate? path = some place ∧ file = '/' :: Text.joinWith '/' place ∧
      Path.components file = .root :: place.map .name := by
  obtain ⟨place, hplace, rfl⟩ := Option.map_eq_some_iff.mp h
  exact ⟨place, hplace, rfl, Path.components_canonical (isFileName_of_locate? hcurrent hplace)⟩

theorem map_name_injective {names others : List Text}
    (h : names.map Component.name = others.map Component.name) : names = others :=
  List.map_injective_iff.mpr (fun _ _ heq => Component.name.inj heq) h

theorem eq_of_components_eq (hcurrent : ∀ name ∈ disk.current, IsFileName name)
    (hfile : disk.canonical? path = some file) (hother : disk.canonical? path' = some other)
    (h : Path.components file = Path.components other) : file = other := by
  obtain ⟨place, -, rfl, hplace⟩ := components_of_canonical? hcurrent hfile
  obtain ⟨place', -, rfl, hplace'⟩ := components_of_canonical? hcurrent hother
  rw [hplace, hplace'] at h
  rw [map_name_injective (List.cons.inj h).2]

theorem file_of_components_eq (hcurrent : ∀ name ∈ disk.current, IsFileName name)
    (hfile : disk.canonical? path = some file) (hother : disk.canonical? path' = some other)
    (h : Path.components path = Path.components other) : file = other := by
  obtain ⟨found, hfound, rfl, -⟩ := components_of_canonical? hcurrent hfile
  obtain ⟨place, hplace, rfl, hcomponents⟩ := components_of_canonical? hcurrent hother
  have hplaceNames := isFileName_of_locate? hcurrent hplace
  obtain ⟨hrooted, hnames, hup⟩ := Path.pieces_of_components hplaceNames (h.trans hcomponents)
  -- Something stands at the place, so no link is met on the way there.
  have hstands : disk.Stands place := stands_of_locate? hplace
  obtain ⟨-, hfollows⟩ := locate?_eq_some_iff.mp hfound
  rw [startOf, hrooted, if_pos rfl] at hfollows
  have hfound := hfollows.eq_of_stands hup (by simpa [hnames] using hstands)
  rw [hnames, List.append_nil, List.reverse_inj] at hfound
  rw [hfound]

theorem holds_iff_exists_canonical? :
    disk.holds path = true ↔ ∃ file, disk.canonical? path = some file := by
  rw [holds, node?, canonical?]
  cases hplace : disk.locate? path with
  | none => simp
  | some place =>
    obtain ⟨kind, hkind, -⟩ := stands_of_locate? hplace
    obtain ⟨node, hnode, -⟩ := Option.map_eq_some_iff.mp hkind
    simp [hnode]

end Disk

-- ---------------------------------------------------------------------------
-- Rows
-- ---------------------------------------------------------------------------

namespace RowTable

variable {disk : Disk} {table : RowTable} {base file : Text} {record : List Text}
  {records : List (List Text)}

def subject (record : List Text) : Text := (record.headD []).trim

/-- The record is for the file, its first column being taken from the directory `base`. -/
def describes (disk : Disk) (base file : Text) (record : List Text) : Bool :=
  subject record ≠ [] ∧ disk.canonical? (Path.join base (subject record)) = some file

def Resolves (disk : Disk) (base : Text) (record : List Text) : Prop :=
  subject record ≠ [] → disk.holds (Path.join base (subject record)) = true

theorem resolves_of_describes (h : describes disk base file record) :
    Resolves disk base record := fun _ =>
  Disk.holds_iff_exists_canonical?.mpr ⟨file, (of_decide_eq_true h).2⟩

def lastFor (disk : Disk) (base file : Text) (records : List (List Text)) : Option (List Text) :=
  (records.filter (describes disk base file)).getLast?

def directoryOf (path : Text) : Text := (Path.parent? path).getD []

theorem addRows_eq_ok {read : List (Option (List Text))} {number : Nat}
    (h : addRows disk path table number read = .ok table') :
    ∃ records : List (List Text), read = records.map some ∧
      table' = records.foldl (addRow disk (directoryOf path)) table := by
  induction read generalizing table number with
  | nil =>
    obtain rfl := Except.ok.inj h
    exact ⟨[], rfl, rfl⟩
  | cons row read ih =>
    cases row with
    | none => cases h
    | some record =>
      obtain ⟨records, rfl, rfl⟩ := ih h
      exact ⟨record :: records, rfl, rfl⟩

theorem addRows_map_some (records : List (List Text)) (table : RowTable) (number : Nat) :
    addRows disk path table number (records.map some) =
      .ok (records.foldl (addRow disk (directoryOf path)) table) := by
  induction records generalizing table number with
  | nil => rfl
  | cons record records ih => exact ih _ _

theorem load_eq_ok_iff : load disk path = .ok table ↔
    ∃ (content : ByteArray) (records : List (List Text)), disk.content? path = some content ∧
      Rows.read content = records.map some ∧
      table = records.foldl (addRow disk (directoryOf path)) empty := by
  unfold load Disk.content?
  split
  case h_1 hnode => simp [hnode]
  case h_3 node hnotfile hnode =>
    rw [hnode]
    cases node with
    | file content stamps => exact absurd rfl (hnotfile content stamps)
    | link target stamps => simp
    | directory entries stamps => simp
  case h_2 content stamps hnode =>
    rw [hnode]
    constructor
    · intro h
      obtain ⟨records, hread, htable⟩ := addRows_eq_ok h
      exact ⟨content, records, rfl, hread, htable⟩
    · rintro ⟨_, records, hcontent, hread, rfl⟩
      obtain rfl := Option.some.inj hcontent
      rw [hread, addRows_map_some]

private theorem addRow_eq (disk : Disk) (base : Text) (table : RowTable) (record : List Text) :
    addRow disk base table record =
      if subject record = [] then table
      else table.insert (key disk (Path.join base (subject record))) record := rfl

/-- A record goes under where its file is. -/
private theorem addRow_eq_insert (table : RowTable) (h : Resolves disk base record)
    (hne : subject record ≠ []) :
    ∃ key, disk.canonical? (Path.join base (subject record)) = some key ∧
      addRow disk base table record = table.insert key record := by
  obtain ⟨key, hkey⟩ := Disk.holds_iff_exists_canonical?.mp (h hne)
  exact ⟨key, hkey, by rw [addRow_eq, if_neg hne, RowTable.key, hkey, Option.getD_some]⟩

private theorem addRow_of_blank (h : subject record = []) : addRow disk base table record = table := by
  rw [addRow_eq, if_pos h]

private theorem row?_addRow (hcurrent : ∀ name ∈ disk.current, IsFileName name)
    (h : Resolves disk base record) (hfile : disk.canonical? path = some file) :
    (addRow disk base table record).row? file =
      if describes disk base file record then some record else table.row? file := by
  by_cases hne : subject record = []
  · simp [addRow_of_blank hne, describes, hne]
  · obtain ⟨key, hkey, hadd⟩ := addRow_eq_insert table h hne
    have hsame : Path.components file = Path.components key ↔ key = file :=
      ⟨fun heq => (Disk.eq_of_components_eq hcurrent hfile hkey heq).symm, fun heq => heq ▸ rfl⟩
    simp [hadd, row?_insert, hsame, describes, hne, hkey]

/-- After records have been added, the last one that is for a file is its row. -/
theorem row?_foldl_addRow (hcurrent : ∀ name ∈ disk.current, IsFileName name)
    (h : ∀ record ∈ records, Resolves disk base record) (hfile : disk.canonical? path = some file) :
    (records.foldl (addRow disk base) table).row? file =
      (lastFor disk base file records).or (table.row? file) := by
  induction records generalizing table with
  | nil => rfl
  | cons record records ih =>
    obtain ⟨hrecord, hrecords⟩ := List.forall_mem_cons.mp h
    rw [List.foldl_cons, ih hrecords, row?_addRow hcurrent hrecord hfile, lastFor, lastFor,
      List.filter_cons]
    split
    · cases hlast : (records.filter (describes disk base file)).getLast? <;>
        simp [List.getLast?_cons, hlast]
    · rfl

def IsLocated (disk : Disk) (table : RowTable) : Prop :=
  ∀ row ∈ table.rows, ∃ path, disk.canonical? path = some row.1

theorem IsLocated.insert {key : Text} (h : table.IsLocated disk)
    (hkey : disk.canonical? path = some key) : (table.insert key record).IsLocated disk := by
  intro row hrow
  unfold RowTable.insert at hrow
  split at hrow
  case isTrue =>
    obtain ⟨old, hold, rfl⟩ := List.mem_map.mp hrow
    obtain ⟨path, hpath⟩ := h old hold
    refine ⟨path, ?_⟩
    split <;> exact hpath
  case isFalse =>
    rcases List.mem_append.mp hrow with hrow | hrow
    · exact h row hrow
    · obtain rfl := List.mem_singleton.mp hrow
      exact ⟨path, hkey⟩

theorem IsLocated.addRow (h : table.IsLocated disk) (hrecord : Resolves disk base record) :
    (addRow disk base table record).IsLocated disk := by
  by_cases hne : subject record = []
  · rwa [addRow_of_blank hne]
  · obtain ⟨key, hkey, hadd⟩ := addRow_eq_insert table hrecord hne
    rw [hadd]
    exact h.insert hkey

theorem IsLocated.foldl_addRow (h : table.IsLocated disk)
    (hrecords : ∀ record ∈ records, Resolves disk base record) :
    (records.foldl (RowTable.addRow disk base) table).IsLocated disk := by
  induction records generalizing table with
  | nil => exact h
  | cons record records ih =>
    obtain ⟨hrecord, hrecords⟩ := List.forall_mem_cons.mp hrecords
    exact ih (h.addRow hrecord) hrecords

theorem row?_eq_none (hcurrent : ∀ name ∈ disk.current, IsFileName name)
    (h : table.IsLocated disk) (hfile : disk.canonical? path = some file)
    (hne : Path.components path ≠ Path.components file) : table.row? path = none := by
  rw [row?, Option.map_eq_none_iff, List.find?_eq_none]
  intro row hrow hfor
  obtain ⟨path', hkey⟩ := h row hrow
  have hpath := (isFor_iff.mp hfor).symm
  obtain rfl := Disk.file_of_components_eq hcurrent hfile hkey hpath
  exact hne hpath

theorem row?_or_key (hcurrent : ∀ name ∈ disk.current, IsFileName name)
    (h : table.IsLocated disk) (hfile : disk.canonical? path = some file) :
    (table.row? path).or (table.row? (key disk path)) = table.row? file := by
  rw [key, hfile, Option.getD_some]
  -- A spelling that is not that of the place itself is no key of the table.
  by_cases heq : Path.components path = Path.components file
  · have hrow : table.row? path = table.row? file := by unfold row? isFor; rw [heq]
    rw [hrow, Option.or_self]
  · rw [row?_eq_none hcurrent h hfile heq, Option.none_or]

theorem column_foldl_addRow (hcurrent : ∀ name ∈ disk.current, IsFileName name)
    (h : ∀ record ∈ records, Resolves disk base record) (hfile : disk.canonical? path = some file)
    (n : Nat) :
    (records.foldl (addRow disk base) empty).column disk n path =
      (lastFor disk base file records).bind fun record =>
        if n = 0 then none else record[n - 1]? := by
  have hlocated : (records.foldl (addRow disk base) empty).IsLocated disk :=
    IsLocated.foldl_addRow (fun row hrow => nomatch hrow) h
  have hrow := row?_or_key hcurrent hlocated hfile
  rw [row?_foldl_addRow hcurrent h hfile, show empty.row? file = none from rfl,
    Option.or_none] at hrow
  rw [column, hrow]
  cases lastFor disk base file records <;> rfl

end RowTable

/-- When every first column that is not blank names something that exists, a file has the columns of
the last row for it, whichever path leads to it. -/
theorem column_by_file (hcurrent : ∀ name ∈ disk.current, IsFileName name)
    (h : RowTable.load disk path = .ok table) :
    ∃ (content : ByteArray) (records : List (List Text)), disk.content? path = some content ∧
      Rows.read content = records.map some ∧
      ((∀ record ∈ records, RowTable.Resolves disk (RowTable.directoryOf path) record) →
        ∀ zone tool p q file, disk.canonical? p = some file → disk.canonical? q = some file →
          ∀ n, (MetadataSource.ofDisk disk zone table tool).column n p =
              (MetadataSource.ofDisk disk zone table tool).column n q ∧
            (MetadataSource.ofDisk disk zone table tool).column n p =
              (RowTable.lastFor disk (RowTable.directoryOf path) file records).bind
                fun record => if n = 0 then none else record[n - 1]?) := by
  obtain ⟨content, records, hcontent, hread, rfl⟩ := RowTable.load_eq_ok_iff.mp h
  refine ⟨content, records, hcontent, hread, fun hresolves zone tool p q file hp hq n => ?_⟩
  have hp := RowTable.column_foldl_addRow hcurrent hresolves hp n
  have hq := RowTable.column_foldl_addRow hcurrent hresolves hq n
  exact ⟨hp.trans hq.symm, hp⟩

def twoRows : ByteArray :=
  ⟨#[0x61, 0x2C, 0x78, 0x0A, 0x2E, 0x2E, 0x2F, 0x69, 0x6E, 0x2F, 0x61, 0x2C, 0x79, 0x0A]⟩

def photoDisk : Disk :=
  let photos : Listing :=
    .cons "a".toList (.file .empty (.at 0)) (.cons "rows".toList (.file twoRows (.at 0)) .nil)
  ⟨.directory (.cons "d".toList (.directory photos (.at 0))
    (.cons "in".toList (.link "d".toList (.at 0)) .nil)) (.at 0), []⟩

theorem read_twoRows : Rows.read twoRows =
    [["a".toList, "x".toList], ["../in/a".toList, "y".toList]].map some := by
  decide +kernel

theorem content?_photoDisk : photoDisk.content? "d/rows".toList = some twoRows := by
  simp [photoDisk, Disk.content?, Disk.node?, Disk.locate?, Disk.startOf, Disk.mostLinks,
    Disk.follow, Disk.isDirectoryAt, Disk.nodeAt, Node.descend, Node.isDirectory, Listing.find?,
    Text.pieces, Path.isRooted, Path.isIdle]

theorem canonical?_photoDisk (h : path ∈ ["d/a".toList, "d/../in/a".toList, "/in//a".toList]) :
    photoDisk.canonical? path = some "/d/a".toList := by
  revert path
  simp [photoDisk, Disk.canonical?, Disk.locate?, Disk.startOf, Disk.mostLinks, Disk.follow,
    Disk.isDirectoryAt, Disk.nodeAt, Node.descend, Node.isDirectory, Listing.find?, Text.pieces,
    Path.isRooted, Path.isIdle, Text.joinWith]

theorem column_by_file_photoDisk : ∃ table, RowTable.load photoDisk "d/rows".toList = .ok table ∧
    ∀ path ∈ ["d/a".toList, "d/../in/a".toList, "/in//a".toList],
      (MetadataSource.ofDisk photoDisk .utc table none).column 2 path = some "y".toList := by
  -- The row by way of the link counts, by whichever of the ways the file is asked for.
  have hload := RowTable.load_eq_ok_iff.mpr ⟨twoRows, _, content?_photoDisk, read_twoRows, rfl⟩
  refine ⟨_, hload, fun path hpath => ?_⟩
  obtain ⟨content, records, hcontent, hread, hcolumn⟩ :=
    column_by_file (by simp [photoDisk]) hload
  obtain rfl := Option.some.inj (content?_photoDisk.symm.trans hcontent)
  obtain rfl := List.map_injective_iff.mpr (fun _ _ => Option.some.inj)
    (read_twoRows.symm.trans hread)
  have hdescribes : ∀ record ∈ [["a".toList, "x".toList], ["../in/a".toList, "y".toList]],
      RowTable.describes photoDisk (RowTable.directoryOf "d/rows".toList) "/d/a".toList record := by
    intro record hrecord
    have hnames : RowTable.subject record ≠ [] ∧
        Path.join (RowTable.directoryOf "d/rows".toList) (RowTable.subject record) ∈
          ["d/a".toList, "d/../in/a".toList, "/in//a".toList] := by
      revert record
      decide
    exact decide_eq_true ⟨hnames.1, canonical?_photoDisk hnames.2⟩
  have hfile := canonical?_photoDisk hpath
  rw [(hcolumn (fun record hrecord => RowTable.resolves_of_describes (hdescribes record hrecord))
    .utc none path path _ hfile hfile 2).2, RowTable.lastFor, List.filter_eq_self.mpr hdescribes]
  rfl

end Relabel
