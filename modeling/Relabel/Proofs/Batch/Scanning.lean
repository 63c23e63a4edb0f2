import Mathlib.Data.List.Forall2
import Relabel.Batch.Scan
import Relabel.Proofs.Disk.Tree
import Relabel.Proofs.Text.Order

/-!
# What a scan finds

A scan lists a node below its directory just when the name is visible all the way, the pattern
matches it and the options ask for it (`ScanOptions.Lists`). It lists each of these once, and a
directory before what lies below it (`scan_lists`). What is not listed itself is looked into all
the same.
-/

namespace Relabel

-- ---------------------------------------------------------------------------
-- The order of places
-- ---------------------------------------------------------------------------

/-- The order in which a scan comes to places below a directory, which are given by the names that
lead to them. A place comes before those below it, and otherwise the first names that differ decide
by their characters. -/
def placeOrder : List Text → List Text → Ordering := List.compareLex Text.order

instance : Std.TransCmp placeOrder :=
  inferInstanceAs (Std.TransCmp (List.compareLex Text.order))

private theorem placeOrder_cons (a b : Text) (as bs : List Text) :
    placeOrder (a :: as) (b :: bs) = (Text.order a b).then (placeOrder as bs) :=
  List.compareLex_cons_cons

@[simp] theorem placeOrder_cons_self (a : Text) (as bs : List Text) :
    placeOrder (a :: as) (a :: bs) = placeOrder as bs := by
  have ha : Text.order a a = .eq := Std.ReflCmp.compare_self
  rw [placeOrder_cons, ha, Ordering.eq_then]

theorem not_prefix_of_placeOrder (h : placeOrder as bs = .lt) : ¬ bs <+: as := by
  rintro ⟨rest, rfl⟩
  induction bs with
  | nil => cases rest <;> exact absurd h nofun
  | cons b bs ih => exact ih (by simpa using h)

-- ---------------------------------------------------------------------------
-- What has to be listed
-- ---------------------------------------------------------------------------

namespace ScanOptions

/-- A node at a place below a directory is one that a scan of the directory has to list. -/
structure Lists (options : ScanOptions) (search : Pattern) (tree : Node) (place : List Text)
    (node : Node) : Prop where
  stands : tree.descend place = some node
  inReach : place ≠ [] ∧ (options.recursive = true ∨ place.length = 1)
  matched : ∀ name ∈ place.getLast?, search.isMatch name = true
  wanted : node.isDirectory = true → options.includeDirectories = true
  visible : options.includeHidden = true ∨ ∀ name ∈ place, isHidden name = false

variable {options : ScanOptions} {search : Pattern}

theorem isVisible_iff : options.isVisible name = true ↔
    options.includeHidden = true ∨ isHidden name = false := by
  simp [isVisible]

theorem isOffered_iff : options.isOffered search name isDirectory = true ↔
    search.isMatch name = true ∧ (isDirectory = true → options.includeDirectories = true) := by
  cases isDirectory <;> simp [isOffered, and_comm]

private theorem lists_cons_iff {entries : Listing} {stamps : Stamps} {node : Node} :
    options.Lists search (.directory entries stamps) (name :: rest) node ↔
      ∃ child, entries.find? name = some child ∧ options.isVisible name = true ∧
        (rest = [] ∧ node = child ∧ options.isOffered search name child.isDirectory = true ∨
          options.recursive = true ∧ options.Lists search child rest node) := by
  constructor
  · rintro ⟨hstands, ⟨-, hreach⟩, hmatched, hwanted, hvisible⟩
    simp only [Node.descend, Option.bind_eq_some_iff] at hstands
    obtain ⟨child, hchild, hbelow⟩ := hstands
    have hname : options.isVisible name = true :=
      isVisible_iff.mpr (hvisible.imp_right fun h => h name (by simp))
    refine ⟨child, hchild, hname, ?_⟩
    cases rest with
    -- The node is the entry of the directory itself.
    | nil =>
      obtain rfl : child = node := by simpa [Node.descend] using hbelow
      exact .inl ⟨rfl, rfl, isOffered_iff.mpr ⟨hmatched name (by simp), hwanted⟩⟩
    -- The node lies below the entry, from which it is listed again.
    | cons next others =>
      have hrecursive : options.recursive = true := by simpa using hreach
      refine .inr ⟨hrecursive, hbelow, ⟨by simp, .inl hrecursive⟩, ?_, hwanted, ?_⟩
      · simpa using hmatched
      · exact hvisible.imp_right fun h => (List.forall_mem_cons.mp h).2
  · rintro ⟨child, hchild, hname, ⟨rfl, rfl, hoffered⟩ | ⟨hrecursive, hlists⟩⟩
    · obtain ⟨hmatched, hwanted⟩ := isOffered_iff.mp hoffered
      exact ⟨by simp [Node.descend, hchild], by simp, by simpa using hmatched, hwanted,
        by simpa using isVisible_iff.mp hname⟩
    · have hvisible : options.includeHidden = true ∨
          ∀ other ∈ name :: rest, isHidden other = false := by
        rcases isVisible_iff.mp hname with h | h
        · exact .inl h
        · exact hlists.visible.imp_right fun hrest => List.forall_mem_cons.mpr ⟨h, hrest⟩
      refine ⟨by simpa [Node.descend, hchild] using hlists.stands, by simp [hrecursive], ?_,
        hlists.wanted, hvisible⟩
      obtain ⟨next, others, rfl⟩ := List.exists_cons_of_ne_nil hlists.inReach.1
      simpa using hlists.matched

end ScanOptions

-- ---------------------------------------------------------------------------
-- What an entry tells
-- ---------------------------------------------------------------------------

/-- The entry stands for a node at a place below a directory, and its paths are spelled from the
path of that directory. -/
structure Entry.Tells (root : Text) (place : List Text) (node : Node) (e : Entry) : Prop where
  pending : e = Entry.pending e.baseDir e.source e.isDirectory
  source : place.getLast? = some e.source
  parent : Path.parent? (place.foldl Path.join root) = some e.baseDir
  baseDir : Path.components e.baseDir = Path.components (place.dropLast.foldl Path.join root)
  isDirectory : e.isDirectory = node.isDirectory

private theorem tells_pending (path : Text) (h : Path.IsFileName name) (node : Node) :
    (Entry.pending (baseOf path name) name node.isDirectory).Tells path [name] node := by
  have hcomponents := Path.components_join path h
  obtain ⟨dir, hdir⟩ := Path.exists_parent? hcomponents
  have hbase : baseOf path name = dir := by rw [baseOf, hdir, Option.getD_some]
  refine ⟨rfl, rfl, hbase ▸ hdir, ?_, rfl⟩
  rw [Entry.pending, hbase, Path.components_parent? hdir, hcomponents, List.dropLast_concat]
  rfl

theorem Entry.Tells.under {e : Entry} (h : e.Tells (Path.join path name) place node) :
    e.Tells path (name :: place) node where
  pending := h.pending
  source := by rw [List.getLast?_cons, h.source]; rfl
  parent := h.parent
  baseDir := by
    have hne : place ≠ [] := by
      rintro rfl
      simpa using h.source
    rw [List.dropLast_cons_of_ne_nil hne]
    exact h.baseDir
  isDirectory := h.isDirectory

-- ---------------------------------------------------------------------------
-- The walk through a directory
-- ---------------------------------------------------------------------------

structure Site where
  place : List Text
  node : Node

def Node.foundBelow (options : ScanOptions) (search : Pattern) (path : Text) : Node → List Entry
  | .directory entries _ => inNameOrder (entries.collect options search path)
  | _ => []

/-- The entries stand for the sites one by one, and the sites are those that the scan has to list,
in its order. -/
structure Scanned (options : ScanOptions) (search : Pattern) (path : Text) (tree : Node)
    (found : List Entry) (sites : List Site) : Prop where
  tells : List.Forall₂ (fun site e => e.Tells path site.place site.node) sites found
  lists : ∀ site, site ∈ sites ↔ options.Lists search tree site.place site.node
  ordered : sites.Pairwise fun a b => placeOrder a.place b.place = .lt

variable {options : ScanOptions} {search : Pattern}

theorem Node.collect_eq (path name : Text) (node : Node) :
    node.collect options search path name =
      (if options.isOffered search name node.isDirectory = true then
        [Entry.pending (baseOf path name) name node.isDirectory] else []) ++
      if options.recursive = true then
        node.foundBelow options search (Path.join path name) else [] := by
  cases node with
  | file => simp only [foundBelow, ite_self, List.append_nil]; rfl
  | link => simp only [foundBelow, ite_self, List.append_nil]; rfl
  | directory entries stamps =>
    have hnone : inNameOrder [] = [] := by simp [inNameOrder]
    simp only [Node.collect, foundBelow, apply_ite inNameOrder, hnone]
    rfl

theorem Listing.collect_eq (path : Text) (entries : Listing) :
    entries.collect options search path =
      (entries.toList.filter fun child => options.isVisible child.1).map fun child =>
        (child.1, child.2.collect options search path child.1) := by
  cases entries with
  | nil => rfl
  | cons name node rest =>
    have ih := rest.collect_eq path
    simp only [collect, toList, List.filter_cons, ih]
    split <;> simp

def Listing.inOrder (options : ScanOptions) (entries : Listing) : List (Text × Node) :=
  (entries.toList.filter fun child => options.isVisible child.1).mergeSort fun a b =>
    (Text.order a.1 b.1).isLE

theorem Node.foundBelow_directory (path : Text) (entries : Listing) (stamps : Stamps) :
    (Node.directory entries stamps).foundBelow options search path =
      (entries.inOrder options).flatMap fun child =>
        child.2.collect options search path child.1 := by
  rw [foundBelow, inNameOrder, Listing.collect_eq, Listing.inOrder,
    ← @List.map_mergeSort _ _ (fun a b => (Text.order a.1 b.1).isLE) _ _ _ fun _ _ _ _ => rfl,
    List.flatMap_map]

theorem Listing.mem_inOrder {entries : Listing} : child ∈ entries.inOrder options ↔
    child ∈ entries.toList ∧ options.isVisible child.1 = true := by
  rw [inOrder, List.mem_mergeSort, List.mem_filter]

theorem Listing.pairwise_inOrder {entries : Listing} (h : (entries.toList.map Prod.fst).Nodup) :
    (entries.inOrder options).Pairwise fun a b => Text.order a.1 b.1 = .lt := by
  let visible := entries.toList.filter fun child => options.isVisible child.1
  have hsorted : (entries.inOrder options).Pairwise fun a b => (Text.order a.1 b.1).isLE := by
    refine List.pairwise_mergeSort (fun a b c => Std.TransCmp.isLE_trans) (fun a b => ?_) visible
    rw [@Std.OrientedCmp.eq_swap _ Text.order _ b.1 a.1]
    cases Text.order a.1 b.1 <;> rfl
  -- Sorting gives an order in which equal names could follow each other; no two are equal.
  have hdistinct : ((entries.inOrder options).map Prod.fst).Nodup :=
    ((List.mergeSort_perm visible _).map Prod.fst).nodup_iff.mpr
      (h.sublist (List.filter_sublist.map Prod.fst))
  refine (hsorted.and (List.pairwise_map.mp hdistinct)).imp ?_
  rintro a b ⟨hle, hne⟩
  cases horder : Text.order a.1 b.1 with
  | lt => rfl
  | eq => exact absurd (Text.eq_of_order_eq horder) hne
  | gt => simp [horder] at hle

-- ---------------------------------------------------------------------------
-- The sites of one entry
-- ---------------------------------------------------------------------------

def Site.under (name : Text) (site : Site) : Site := ⟨name :: site.place, site.node⟩

def sitesOf (options : ScanOptions) (search : Pattern) (child : Text × Node) (below : List Site) :
    List Site :=
  (if options.isOffered search child.1 child.2.isDirectory = true then
    [⟨[child.1], child.2⟩] else []) ++
    if options.recursive = true then below.map (.under child.1) else []

theorem mem_sitesOf {site : Site} : site ∈ sitesOf options search child below ↔
    options.isOffered search child.1 child.2.isDirectory = true ∧ site = ⟨[child.1], child.2⟩ ∨
      options.recursive = true ∧ ∃ found ∈ below, found.under child.1 = site := by
  rw [sitesOf, List.mem_append]
  refine or_congr ?_ ?_ <;> split <;> simp_all

section
variable {path : Text} {child : Text × Node} {found : List Entry} {below : List Site}

theorem Scanned.tells_sitesOf (hname : Path.IsFileName child.1)
    (h : Scanned options search (Path.join path child.1) child.2
      (child.2.foundBelow options search (Path.join path child.1)) below) :
    List.Forall₂ (fun site e => e.Tells path site.place site.node)
      (sitesOf options search child below) (child.2.collect options search path child.1) := by
  rw [Node.collect_eq, sitesOf]
  refine List.rel_append ?_ ?_
  · split
    · exact .cons (tells_pending path hname child.2) .nil
    · exact .nil
  · split
    · exact List.forall₂_map_left_iff.mpr (h.tells.imp fun _ _ htells => htells.under)
    · exact .nil

theorem Scanned.mem_sitesOf_iff (h : Scanned options search path child.2 found below)
    {site : Site} : site ∈ sitesOf options search child below ↔
      ∃ rest, site.place = child.1 :: rest ∧
        (rest = [] ∧ site.node = child.2 ∧
            options.isOffered search child.1 child.2.isDirectory = true ∨
          options.recursive = true ∧ options.Lists search child.2 rest site.node) := by
  rw [mem_sitesOf]
  constructor
  · rintro (⟨hoffered, rfl⟩ | ⟨hrecursive, inner, hinner, rfl⟩)
    · exact ⟨[], rfl, .inl ⟨rfl, rfl, hoffered⟩⟩
    · exact ⟨inner.place, rfl, .inr ⟨hrecursive, (h.lists inner).mp hinner⟩⟩
  · obtain ⟨place, node⟩ := site
    rintro ⟨rest, rfl, ⟨rfl, rfl, hoffered⟩ | ⟨hrecursive, hlists⟩⟩
    · exact .inl ⟨hoffered, rfl⟩
    · exact .inr ⟨hrecursive, ⟨rest, node⟩, (h.lists ⟨rest, node⟩).mpr hlists, rfl⟩

theorem Scanned.pairwise_sitesOf (h : Scanned options search path child.2 found below) :
    (sitesOf options search child below).Pairwise fun a b => placeOrder a.place b.place = .lt := by
  refine List.pairwise_append.mpr ⟨?_, ?_, fun a ha b hb => ?_⟩
  · split <;> simp
  · split
    · exact List.pairwise_map.mpr (h.ordered.imp fun hlt => by simpa [Site.under] using hlt)
    · exact .nil
  · -- What lies below the entry has a longer place than the entry itself.
    obtain ⟨-, rfl⟩ : _ ∧ a = ⟨[child.1], child.2⟩ := by simpa using ha
    obtain ⟨-, inner, hinner, rfl⟩ :
        options.recursive = true ∧ ∃ inner ∈ below, Site.under child.1 inner = b := by
      split at hb <;> simp_all
    obtain ⟨next, others, hplace⟩ :=
      List.exists_cons_of_ne_nil ((h.lists inner).mp hinner).inReach.1
    rw [Site.under, placeOrder_cons_self, hplace]
    rfl

end

-- ---------------------------------------------------------------------------
-- All that a scan finds
-- ---------------------------------------------------------------------------

theorem forall₂_flatMap {R : β → γ → Prop} {f : α → List β} {g : α → List γ} {items : List α}
    (h : ∀ a ∈ items, List.Forall₂ R (f a) (g a)) :
    List.Forall₂ R (items.flatMap f) (items.flatMap g) := by
  induction items with
  | nil => exact .nil
  | cons a items ih =>
    obtain ⟨ha, hitems⟩ := List.forall_mem_cons.mp h
    exact List.rel_append ha (ih hitems)

private theorem scanned_nil {tree : Node} (h : ∀ name rest, tree.descend (name :: rest) = none)
    (path : Text) : Scanned options search path tree [] [] where
  tells := .nil
  lists site := by
    refine iff_of_false List.not_mem_nil fun hlists => ?_
    obtain ⟨name, rest, hplace⟩ := List.exists_cons_of_ne_nil hlists.inReach.1
    have hstands := hlists.stands
    rw [hplace, h] at hstands
    exact nomatch hstands
  ordered := .nil

/-- The sites of the entries, put together in the order of their names, are those below the
directory. -/
theorem Scanned.directory {entries : Listing} {below : Text × Node → List Site}
    (hnames : ∀ child ∈ entries.toList, Path.IsFileName child.1)
    (hdistinct : (entries.toList.map Prod.fst).Nodup)
    (hbelow : ∀ child ∈ entries.toList,
      Scanned options search (Path.join path child.1) child.2
        (child.2.foundBelow options search (Path.join path child.1)) (below child))
    (stamps : Stamps) :
    Scanned options search path (.directory entries stamps)
      ((Node.directory entries stamps).foundBelow options search path)
      ((entries.inOrder options).flatMap fun child =>
        sitesOf options search child (below child)) where
  tells := by
    rw [Node.foundBelow_directory]
    refine forall₂_flatMap fun child hchild => ?_
    have hmem := (Listing.mem_inOrder.mp hchild).1
    exact (hbelow child hmem).tells_sitesOf (hnames child hmem)
  lists site := by
    rw [List.mem_flatMap]
    constructor
    · rintro ⟨child, hchild, hsite⟩
      obtain ⟨hmem, hvisible⟩ := Listing.mem_inOrder.mp hchild
      obtain ⟨rest, hplace, hrest⟩ := (hbelow child hmem).mem_sitesOf_iff.mp hsite
      rw [hplace]
      exact ScanOptions.lists_cons_iff.mpr
        ⟨child.2, (Listing.find?_eq_some_iff hdistinct).mpr hmem, hvisible, hrest⟩
    · intro hlists
      -- The first name of a place tells the entry of the directory.
      obtain ⟨name, rest, hplace⟩ := List.exists_cons_of_ne_nil hlists.inReach.1
      rw [hplace] at hlists
      obtain ⟨node, hfind, hvisible, hrest⟩ := ScanOptions.lists_cons_iff.mp hlists
      have hmem := (Listing.find?_eq_some_iff hdistinct).mp hfind
      exact ⟨(name, node), Listing.mem_inOrder.mpr ⟨hmem, hvisible⟩,
        (hbelow (name, node) hmem).mem_sitesOf_iff.mpr ⟨rest, hplace, hrest⟩⟩
  ordered := by
    refine List.pairwise_flatMap.mpr ⟨fun child hchild => ?_, ?_⟩
    · exact (hbelow child (Listing.mem_inOrder.mp hchild).1).pairwise_sitesOf
    · refine (Listing.pairwise_inOrder hdistinct).imp_of_mem ?_
      intro a b ha hb hlt x hx y hy
      -- Places below two entries differ in their first names.
      obtain ⟨xs, hxs, -⟩ := (hbelow a (Listing.mem_inOrder.mp ha).1).mem_sitesOf_iff.mp hx
      obtain ⟨ys, hys, -⟩ := (hbelow b (Listing.mem_inOrder.mp hb).1).mem_sitesOf_iff.mp hy
      rw [hxs, hys, placeOrder_cons, hlt]
      rfl

theorem Node.exists_scanned (node : Node) (h : node.WellNamed) (path : Text) :
    ∃ sites, Scanned options search path node (node.foundBelow options search path) sites := by
  induction node using Node.induction generalizing path with
  | file content stamps => exact ⟨[], scanned_nil (fun _ _ => rfl) path⟩
  | link target stamps => exact ⟨[], scanned_nil (fun _ _ => rfl) path⟩
  | directory entries stamps ih =>
    cases h with
    | directory _ _ names distinct nodes =>
      -- The sites below are chosen for all entries at once; those that the directory has not do not
      -- matter.
      have hchild : ∀ child : Text × Node, ∃ below, child ∈ entries.toList →
          Scanned options search (Path.join path child.1) child.2
            (child.2.foundBelow options search (Path.join path child.1)) below := by
        intro child
        by_cases hmem : child ∈ entries.toList
        · obtain ⟨below, hbelow⟩ := ih child hmem (nodes child hmem) (Path.join path child.1)
          exact ⟨below, fun _ => hbelow⟩
        · exact ⟨[], fun h => absurd h hmem⟩
      choose below hbelow using hchild
      exact ⟨_, Scanned.directory names distinct hbelow stamps⟩

/-- A scan of a directory finds each node that it has to list once, in the order of their places
and so each directory before what lies below it, and no other node. The entries tell the names of
the nodes, the paths of the directories that hold them and whether they are directories
themselves, which a link never is. -/
theorem scan_lists {disk : Disk} {options : ScanOptions} {entries : Listing} {stamps : Stamps}
    (hroot : disk.node? options.root = some (.directory entries stamps))
    (hnames : (Node.directory entries stamps).WellNamed) (search : Pattern) :
    ∃ (found : List Entry) (sites : List Site),
      disk.scan options search = .ok found ∧
      List.Forall₂ (fun site e => e.Tells options.root site.place site.node) sites found ∧
      (∀ site, site ∈ sites ↔
        options.Lists search (.directory entries stamps) site.place site.node) ∧
      sites.Nodup ∧
      sites.Pairwise fun a b => placeOrder a.place b.place = .lt ∧ ¬ b.place <+: a.place := by
  obtain ⟨sites, htells, hlists, hordered⟩ :=
    (Node.directory entries stamps).exists_scanned hnames options.root
  refine ⟨_, sites, ?_, htells, hlists, ?_, ?_⟩
  · rw [Disk.scan, hroot]
    rfl
  · refine hordered.imp ?_
    -- No place comes before itself, so none is listed twice.
    rintro a b hlt rfl
    have hself : placeOrder a.place a.place = .eq := Std.ReflCmp.compare_self
    rw [hself] at hlt
    exact nomatch hlt
  · exact hordered.imp fun hlt => ⟨hlt, not_prefix_of_placeOrder hlt⟩

/-- A picture in a directory whose name has no part of the pattern, one in a hidden directory, and
a link back to the directory above. -/
def album : Listing :=
  let picture : Node := .file .empty (.at 0)
  .cons "old.jpg".toList (.link "../album".toList (.at 0)) <|
  .cons "notes".toList (.directory (.cons "a.jpg".toList picture .nil) (.at 0)) <|
  .cons ".hide".toList (.directory (.cons "x.jpg".toList picture .nil) (.at 0)) .nil

def albumDisk : Disk :=
  ⟨.directory (.cons "album".toList (.directory album (.at 0))
    (.cons "in".toList (.link "album".toList (.at 0)) .nil)) (.at 0), []⟩

def albumScan : ScanOptions := ⟨"in/".toList, true, false, false⟩

theorem scan_lists_album :
    ∃ (found : List Entry) (sites : List Site),
      albumDisk.scan albumScan (.literal false "jpg".toList) = .ok found ∧
      List.Forall₂ (fun site e => e.Tells "in/".toList site.place site.node) sites found ∧
      ⟨["notes".toList, "a.jpg".toList], .file .empty (.at 0)⟩ ∈ sites ∧
      ⟨[".hide".toList, "x.jpg".toList], .file .empty (.at 0)⟩ ∉ sites := by
  -- A scan through the link comes to the picture below, and to none that is hidden.
  have hroot : albumDisk.node? albumScan.root = some (.directory album (.at 0)) := by
    simp [albumDisk, albumScan, Disk.node?, Disk.locate?, Disk.startOf, Disk.mostLinks, Disk.follow,
      Disk.isDirectoryAt, Disk.nodeAt, Node.descend, Node.isDirectory, Listing.find?, Text.pieces,
      Path.isRooted, Path.isIdle]
  have hnames : (Node.directory album (.at 0)).WellNamed := by
    have hinner {name : Text} (hname : Path.IsFileName name) :
        (Node.directory (.cons name (.file .empty (.at 0)) .nil) (.at 0)).WellNamed :=
      .directory _ _ (by simpa [Listing.toList] using hname) (by simp [Listing.toList])
        (by simpa [Listing.toList] using .file _ _)
    refine .directory _ _ (by simp [album, Listing.toList, Path.IsFileName]) (by decide) ?_
    simp only [album, Listing.toList, List.forall_mem_cons, List.not_mem_nil, false_imp_iff,
      implies_true, and_true]
    exact ⟨.link _ _, hinner (by simp [Path.IsFileName]), hinner (by simp [Path.IsFileName])⟩
  obtain ⟨found, sites, hscan, htells, hlists, -⟩ :=
    scan_lists hroot hnames (.literal false "jpg".toList)
  refine ⟨found, sites, hscan, htells, (hlists _).mpr ?_, fun hmem => ?_⟩
  · exact ⟨rfl, by decide, by decide +kernel, fun h => absurd h (by decide), .inr (by decide)⟩
  · have hvisible := ((hlists _).mp hmem).visible
    exact absurd hvisible (by decide)

end Relabel
