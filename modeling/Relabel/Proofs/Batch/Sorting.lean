import Relabel.Proofs.Batch.Stages
import Relabel.Proofs.Naming.NameOnly
import Relabel.Proofs.Sorting.Stable
import Relabel.Proofs.Text.Order

/-!
# The order of a batch

A batch is sorted stably by the keys of its entries, from either end, and then by the depth of the
base directories where the chain has indexes. Neither step loses an entry or adds one.
-/

namespace Relabel

-- ---------------------------------------------------------------------------
-- Keys
-- ---------------------------------------------------------------------------

namespace SortKey

def SameKind : SortKey → SortKey → Prop
  | path _, path _ | naturalPath _, naturalPath _ | size _, size _ | time _, time _ => True
  | _, _ => False

private theorem order_swap (x y : SortKey) : x.order y = (y.order x).swap := by
  cases x <;> cases y <;> simp only [order] <;> first | rfl | exact Std.OrientedCmp.eq_swap

private theorem order_chain {x y z : SortKey} (hxy : x.SameKind y) (hyz : y.SameKind z)
    (h : (x.order y).isLE) (h' : (y.order z).isLE) : (x.order z).isLE := by
  cases x <;> cases y <;> cases hxy <;> cases z <;> cases hyz <;>
    simp only [order] at h h' ⊢ <;> exact Std.TransCmp.isLE_trans h h'

end SortKey

namespace Entry

def keyOrder (disk : Disk) (criterion : SortCriterion) (a b : Entry) : Ordering :=
  match a.sortKey disk criterion, b.sortKey disk criterion with
  | .ok x, .ok y => x.order y
  | _, _ => .eq

/-- The comparison that a sort goes by, turned round where it is reversed. -/
def sortOrder (disk : Disk) (criterion : SortCriterion) (reverse : Bool) (a b : Entry) :
    Ordering :=
  if reverse then (a.keyOrder disk criterion b).swap else a.keyOrder disk criterion b

def depthOrder (a b : Entry) : Ordering :=
  compare (Path.depth a.baseDir) (Path.depth b.baseDir)

variable {disk : Disk} {criterion : SortCriterion} {entries : List Entry}

private theorem keyOrder_eq {a b : Entry} (ha : a.sortKey disk criterion = .ok x)
    (hb : b.sortKey disk criterion = .ok y) : a.keyOrder disk criterion b = x.order y := by
  simp only [keyOrder, ha, hb]

private theorem sameKind_of_sortKey {a b : Entry} (ha : a.sortKey disk criterion = .ok x)
    (hb : b.sortKey disk criterion = .ok y) : x.SameKind y := by
  have hmap {α β : Type} {f : α → β} {u : Except Failure α} {v : β} (h : u.map f = .ok v) :
      ∃ w, f w = v := by
    cases u with
    | error => cases h
    | ok w => exact ⟨w, Except.ok.inj h⟩
  -- Only sorting by size or by time reads anything that may be missing.
  cases criterion with
  | default | natural =>
    cases ha
    cases hb
    trivial
  | _ =>
    obtain ⟨_, rfl⟩ := hmap ha
    obtain ⟨_, rfl⟩ := hmap hb
    trivial

private theorem consistentOn_keyOrder (h : ∀ e ∈ entries, ∃ key, e.sortKey disk criterion = .ok key) :
    ConsistentOn (keyOrder disk criterion) entries where
  swap := fun a ha b hb => by
    obtain ⟨x, hx⟩ := h a ha
    obtain ⟨y, hy⟩ := h b hb
    rw [keyOrder_eq hx hy, keyOrder_eq hy hx]
    exact x.order_swap y
  chain := fun a ha b hb c hc => by
    obtain ⟨x, hx⟩ := h a ha
    obtain ⟨y, hy⟩ := h b hb
    obtain ⟨z, hz⟩ := h c hc
    rw [keyOrder_eq hx hy, keyOrder_eq hy hz, keyOrder_eq hx hz]
    exact SortKey.order_chain (sameKind_of_sortKey hx hy) (sameKind_of_sortKey hy hz)

theorem consistentOn_sortOrder (h : ∀ e ∈ entries, ∃ key, e.sortKey disk criterion = .ok key)
    (reverse : Bool) : ConsistentOn (sortOrder disk criterion reverse) entries := by
  have hkeys := consistentOn_keyOrder h
  cases reverse
  · exact hkeys
  · exact hkeys.reversed

end Entry

-- ---------------------------------------------------------------------------
-- Sorting
-- ---------------------------------------------------------------------------

/-- Sorting takes every key first, and then it goes by nothing but their order. -/
theorem sortEntries_eq_ok {disk : Disk} {criterion : SortCriterion} {reverse : Bool}
    {entries sorted : List Entry} :
    sortEntries disk criterion reverse entries = .ok sorted ↔
      (∀ e ∈ entries, ∃ key, e.sortKey disk criterion = .ok key) ∧
        sorted = entries.mergeSort fun a b => (a.sortOrder disk criterion reverse b).isLE := by
  -- Sorting entries with their keys beside them is sorting the entries by what their keys say.
  have hsorted {keys : List SortKey}
      (hkeys : entries.map (·.sortKey disk criterion) = keys.map .ok) :
      ((keys.zip entries).mergeSort fun a b => inOrder reverse (a.1.order b.1)).map (·.2) =
        entries.mergeSort fun a b => (a.sortOrder disk criterion reverse b).isLE := by
    have hlength : keys.length = entries.length := by simpa using (congrArg List.length hkeys).symm
    have hkey {w : SortKey × Entry} (hw : w ∈ keys.zip entries) :
        w.2.sortKey disk criterion = .ok w.1 := by
      obtain ⟨i, hi⟩ := List.mem_iff_getElem?.mp hw
      obtain ⟨hkey, he⟩ := List.getElem?_zip_eq_some.mp hi
      exact @eq_ok_of_mem_zip _ _ _ _ (w.2, w.1) _ _ hkeys
        (List.mem_iff_getElem?.mpr ⟨i, List.getElem?_zip_eq_some.mpr ⟨he, hkey⟩⟩)
    have horder : ∀ a ∈ keys.zip entries, ∀ b ∈ keys.zip entries,
        inOrder reverse (a.1.order b.1) = (a.2.sortOrder disk criterion reverse b.2).isLE := by
      intro a ha b hb
      rw [Entry.sortOrder, Entry.keyOrder_eq (hkey ha) (hkey hb)]
      cases reverse <;> simp [inOrder]
    rw [@List.map_mergeSort _ _ _ (fun a b => (Entry.sortOrder disk criterion reverse a b).isLE)
      Prod.snd _ horder, List.map_snd_zip (Nat.le_of_eq hlength.symm)]
  rw [sortEntries, bind_eq_ok]
  constructor
  · rintro ⟨keys, hkeys, hpure⟩
    refine ⟨fun e he => ?_, ?_⟩
    · obtain ⟨key, -, hkey⟩ := exists_mem_of_mapM_eq_ok hkeys he
      exact ⟨key, hkey⟩
    · rw [← hsorted (mapM_eq_ok.mp hkeys)]
      exact (Except.ok.inj hpure).symm
  · rintro ⟨hkeys, rfl⟩
    obtain ⟨keys, hkeys⟩ := exists_map_eq_ok hkeys
    exact ⟨keys, mapM_eq_ok.mpr hkeys, congrArg Except.ok (hsorted hkeys)⟩

theorem stablySorted_sortEntries {disk : Disk} {criterion : SortCriterion} {reverse : Bool}
    {entries sorted : List Entry} (h : sortEntries disk criterion reverse entries = .ok sorted) :
    StablySorted (Entry.sortOrder disk criterion reverse) entries sorted := by
  obtain ⟨hkeys, rfl⟩ := sortEntries_eq_ok.mp h
  exact (Entry.consistentOn_sortOrder hkeys reverse).stablySorted

theorem exists_mem_of_sortEntries_eq_error {disk : Disk} {criterion : SortCriterion}
    {reverse : Bool} {entries : List Entry}
    (h : sortEntries disk criterion reverse entries = .error cause) :
    ∃ e ∈ entries, e.sortKey disk criterion = .error cause := by
  rcases bind_eq_error.mp h with hkeys | ⟨keys, -, hpure⟩
  · exact exists_mem_of_mapM_eq_error hkeys
  · cases hpure

namespace Entry

/-- The key of the first entry does not come after the key of the second one or, reversed, not
before it. -/
def KeysInOrder (disk : Disk) (criterion : SortCriterion) (reverse : Bool) (a b : Entry) : Prop :=
  ∃ x y, a.sortKey disk criterion = .ok x ∧ b.sortKey disk criterion = .ok y ∧
    x.order y ≠ if reverse then .lt else .gt

def hasKey (disk : Disk) (criterion : SortCriterion) (key : SortKey) (e : Entry) : Bool :=
  match e.sortKey disk criterion with
  | .ok x => x = key
  | .error _ => false

variable {disk : Disk} {criterion : SortCriterion} {reverse : Bool} {a b : Entry}

theorem hasKey_iff : a.hasKey disk criterion key = true ↔ a.sortKey disk criterion = .ok key := by
  unfold hasKey
  cases a.sortKey disk criterion <;> simp

theorem keysInOrder_of_isLE (ha : a.sortKey disk criterion = .ok x)
    (hb : b.sortKey disk criterion = .ok y) (h : (a.sortOrder disk criterion reverse b).isLE) :
    KeysInOrder disk criterion reverse a b := by
  refine ⟨x, y, ha, hb, ?_⟩
  rw [sortOrder, keyOrder_eq ha hb] at h
  cases reverse <;> cases horder : x.order y <;> simp_all

theorem sortOrder_of_hasKey (ha : a.hasKey disk criterion key = true)
    (hb : b.hasKey disk criterion key = true) : a.sortOrder disk criterion reverse b = .eq := by
  have hself := key.order_swap key
  rw [sortOrder, keyOrder_eq (hasKey_iff.mp ha) (hasKey_iff.mp hb)]
  cases reverse <;> cases horder : key.order key <;> simp_all

end Entry

/-- When the key of every entry can be read, a batch is sorted into the same entries by their keys,
from either end, and entries of one key stand as they came. When a key cannot be read, that is what
sorting ends with. -/
theorem sortEntries_sorts (disk : Disk) (criterion : SortCriterion) (reverse : Bool)
    (entries : List Entry) :
    ((∀ e ∈ entries, ∃ key, e.sortKey disk criterion = .ok key) →
      ∃ sorted, sortEntries disk criterion reverse entries = .ok sorted ∧
        sorted.Perm entries ∧ sorted.Pairwise (Entry.KeysInOrder disk criterion reverse) ∧
        ∀ key, sorted.filter (Entry.hasKey disk criterion key) =
          entries.filter (Entry.hasKey disk criterion key)) ∧
      ((∃ e ∈ entries, ∃ cause, e.sortKey disk criterion = .error cause) →
        ∃ e ∈ entries, ∃ cause, e.sortKey disk criterion = .error cause ∧
          sortEntries disk criterion reverse entries = .error cause) := by
  constructor
  · intro hkeys
    obtain ⟨sorted, hsorted⟩ : ∃ sorted, sortEntries disk criterion reverse entries = .ok sorted :=
      ⟨_, sortEntries_eq_ok.mpr ⟨hkeys, rfl⟩⟩
    -- All three properties are those of a stable sort.
    have hstable := stablySorted_sortEntries hsorted
    refine ⟨sorted, hsorted, hstable.perm, ?_, fun key => ?_⟩
    · refine hstable.pairwise.imp_of_mem fun {a b} ha hb hle => ?_
      obtain ⟨x, hx⟩ := hkeys a (hstable.perm.subset ha)
      obtain ⟨y, hy⟩ := hkeys b (hstable.perm.subset hb)
      exact Entry.keysInOrder_of_isLE hx hy hle
    · exact hstable.filter_eq fun a _ b _ ha hb => Entry.sortOrder_of_hasKey ha hb
  · rintro ⟨e, he, cause, herror⟩
    cases hsorted : sortEntries disk criterion reverse entries with
    | ok sorted =>
      obtain ⟨hkeys, -⟩ := sortEntries_eq_ok.mp hsorted
      obtain ⟨key, hkey⟩ := hkeys e he
      rw [hkey] at herror
      cases herror
    | error cause' =>
      obtain ⟨e', he', herror'⟩ := exists_mem_of_sortEntries_eq_error hsorted
      exact ⟨e', he', cause', herror', rfl⟩

def tiedEntries : List Entry :=
  [.pending "a".toList "b/c".toList false, .pending [] "x".toList false,
    .pending "a/b".toList "c".toList false]

theorem sortEntries_sorts_tied :
    (∃ sorted, sortEntries Setting.bare.disk .natural true tiedEntries = .ok sorted ∧
      sorted.filter (Entry.hasKey Setting.bare.disk .natural (.naturalPath "a/b/c".toList)) =
        [.pending "a".toList "b/c".toList false, .pending "a/b".toList "c".toList false]) ∧
      ∃ cause, sortEntries Setting.bare.disk .size false tiedEntries = .error cause := by
  -- Entries of one path stand as they came also in a reversed batch, and the size of a file that
  -- does not exist cannot be sorted by.
  constructor
  · have hkeys : ∀ e ∈ tiedEntries, ∃ key, e.sortKey Setting.bare.disk .natural = .ok key :=
      fun e _ => ⟨_, rfl⟩
    obtain ⟨sorted, hsorted, -, -, hties⟩ :=
      (sortEntries_sorts Setting.bare.disk .natural true tiedEntries).1 hkeys
    exact ⟨sorted, hsorted, (hties _).trans (by decide)⟩
  · have hunread : Entry.sortKey Setting.bare.disk .size (.pending [] "x".toList false) =
        .error (.unreadableSize "x".toList) := by
      simp [Entry.sortKey, Entry.pending, Entry.sourcePath, Disk.entrySize, Disk.node?,
        Disk.locate?, Disk.startOf, Disk.mostLinks, Disk.follow, Disk.isDirectoryAt, Disk.nodeAt,
        Node.descend, Node.isDirectory, Listing.find?, Text.pieces, Path.join, Path.isRooted,
        Path.isIdle, Setting.bare, Except.map]
    obtain ⟨-, herrors⟩ := sortEntries_sorts Setting.bare.disk .size false tiedEntries
    obtain ⟨-, -, cause, -, herror⟩ := herrors ⟨_, by simp [tiedEntries], _, hunread⟩
    exact ⟨cause, herror⟩

theorem stablySorted_parentsFirst (entries : List Entry) :
    StablySorted Entry.depthOrder entries (parentsFirst entries) := by
  have htrans : Std.TransCmp Entry.depthOrder :=
    inferInstanceAs (Std.TransCmp (compareOn fun e : Entry => Path.depth e.baseDir))
  have hle : (fun a b : Entry => (a.depthOrder b).isLE) =
      fun a b => decide (Path.depth a.baseDir ≤ Path.depth b.baseDir) := by
    funext a b
    rw [Bool.eq_iff_iff, decide_eq_true_iff]
    exact Nat.isLE_compare
  rw [parentsFirst, ← hle]
  exact stablySorted_mergeSort entries

namespace Batch

variable {setting : Setting} {source : MetadataSource} {options : RunOptions}
variable {entries sorted : List Entry}

theorem sortedBy_eq_ok : sortedBy disk options entries = .ok sorted ↔
    match options.sort with
    | some criterion => sortEntries disk criterion options.reverse entries = .ok sorted
    | none => sorted = entries := by
  rw [sortedBy]
  cases options.sort with
  | none => exact ⟨fun h => (Except.ok.inj h).symm, fun h => congrArg Except.ok h.symm⟩
  | some criterion =>
    show (sortEntries disk criterion options.reverse entries).mapError RunError.sorting =
      .ok sorted ↔ sortEntries disk criterion options.reverse entries = .ok sorted
    cases sortEntries disk criterion options.reverse entries with
    | error cause =>
      constructor
      · intro h
        cases h
      · intro h
        cases h
    | ok found =>
      exact ⟨fun h => congrArg Except.ok (Except.ok.inj h),
        fun h => congrArg Except.ok (Except.ok.inj h)⟩

theorem perm_of_sortedBy (h : sortedBy disk options entries = .ok sorted) :
    sorted.Perm entries := by
  rw [sortedBy_eq_ok] at h
  split at h
  · exact (stablySorted_sortEntries h).perm
  · rw [h]

theorem exists_sortedBy_iff : (∃ sorted, sortedBy disk options entries = .ok sorted) ↔
    ∀ e ∈ entries, sortedBy disk options [e] = .ok [e] := by
  simp only [sortedBy_eq_ok]
  cases options.sort with
  | none => simp
  | some criterion => simp [sortEntries_eq_ok]

theorem perm_processed (tokens : List Tokens) (entries : List Entry) :
    (processed tokens entries).Perm entries := by
  unfold processed
  split
  · exact (stablySorted_parentsFirst entries).perm
  · exact .refl _

theorem record_perm (h : (record setting source options entries).Answers log r log') :
    r.entries.Perm entries := by
  obtain ⟨sorted, tokens, hsorted, -, hentries, -⟩ := record_answers.mp h
  rw [hentries]
  exact (perm_processed tokens sorted).trans (perm_of_sortedBy hsorted)

end Batch

end Relabel
