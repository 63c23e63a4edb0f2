import Relabel.Disk.Change
import Relabel.Proofs.Disk.Following

/-!
# Changing disks

A change at one place leaves everything else as it is. What is written under a path is found there
(`content?_write?`), and directories that are missing can be made as long as it is clear where.
-/

namespace Relabel

open Relabel.Path (IsFileName)

namespace Node

variable {change : Option Node → Option Node} {time : Int} {node node' new : Node}

private theorem update_cons (h : node.update change time (name :: names) = some node') :
    ∃ entries stamps stamps' child, node = .directory entries stamps ∧
      node' = .directory (entries.set name child) stamps' ∧
      ((names = [] ∧ change (entries.find? name) = some child) ∨
        ∃ old, entries.find? name = some old ∧ old.update change time names = some child) := by
  cases node with
  | file content stamps => cases names <;> simp [update] at h
  | link target stamps => cases names <;> simp [update] at h
  | directory entries stamps =>
    -- The last name is changed here, any other one by the entry that the first name leads to.
    cases names with
    | nil =>
      obtain ⟨child, hchild, rfl⟩ := Option.map_eq_some_iff.mp h
      exact ⟨entries, stamps, _, child, rfl, rfl, .inl ⟨rfl, hchild⟩⟩
    | cons next names =>
      obtain ⟨old, hold, h⟩ := Option.bind_eq_some_iff.mp h
      obtain ⟨child, hchild, h⟩ := Option.bind_eq_some_iff.mp h
      obtain rfl := Option.some.inj h
      exact ⟨entries, stamps, stamps, child, rfl, rfl, .inr ⟨old, hold, hchild⟩⟩

theorem descend_set (entries : Listing) (name other : Text) (child : Node) (stamps : Stamps)
    (rest : List Text) : (directory (entries.set name child) stamps).descend (other :: rest) =
      if other = name then child.descend rest
      else (directory entries stamps).descend (other :: rest) := by
  simp only [descend, Listing.find?_set]
  split <;> rfl

/-- A change shows at its place and below it, and nowhere else. -/
theorem descend_update (h : node.update change time names = some node') :
    ∃ new, change (node.descend names) = some new ∧
      (∀ more, node'.descend (names ++ more) = new.descend more) ∧
      ∀ place, ¬ names <+: place →
        (node'.descend place).map kind = (node.descend place).map kind := by
  induction names generalizing node node' with
  | nil => exact ⟨node', h, fun more => rfl, fun place hplace => absurd place.nil_prefix hplace⟩
  | cons name names ih =>
    obtain ⟨entries, stamps, stamps', child, rfl, rfl, hchild⟩ := update_cons h
    -- The other entries of the directory are kept, so only what is below the one counts.
    have hframe (place : List Text) (hinner : ∀ rest, place = name :: rest →
        (child.descend rest).map kind =
          ((directory entries stamps).descend (name :: rest)).map kind) :
        ((directory (entries.set name child) stamps').descend place).map kind =
          ((directory entries stamps).descend place).map kind := by
      cases place with
      | nil => rfl
      | cons other rest =>
        rw [descend_set]
        split
        case isTrue heq =>
          subst heq
          exact hinner rest rfl
        case isFalse => rfl
    rcases hchild with ⟨rfl, hchange⟩ | ⟨old, hold, hupdate⟩
    · refine ⟨child, ?_, fun more => ?_, fun place hplace => hframe place ?_⟩
      · simpa [descend] using hchange
      · simp [descend_set]
      · rintro rest rfl
        exact absurd (List.prefix_append [name] rest) hplace
    · obtain ⟨new, hnew, hbelow, hothers⟩ := ih hupdate
      have hdescend (rest : List Text) :
          (directory entries stamps).descend (name :: rest) = old.descend rest := by
        rw [descend, hold, Option.bind_some]
      refine ⟨new, ?_, fun more => ?_, fun place hplace => hframe place ?_⟩
      · rwa [hdescend]
      · rw [List.cons_append, descend_set, if_pos rfl, hbelow]
      · rintro rest rfl
        rw [hdescend]
        exact hothers rest fun hprefix => hplace (List.cons_prefix_cons.mpr ⟨rfl, hprefix⟩)

theorem exists_update (time : Int) (hinside : (node.descend above).map kind = some .directory)
    (hchange : change (node.descend (above ++ [name])) = some new) :
    ∃ node', node.update change time (above ++ [name]) = some node' := by
  induction above generalizing node with
  | nil =>
    cases node with
    | file content stamps => simp [descend, kind] at hinside
    | link target stamps => simp [descend, kind] at hinside
    | directory entries stamps =>
      have hentry : change (entries.find? name) = some new := by simpa [descend] using hchange
      exact ⟨_, by rw [List.nil_append, update, hentry]; rfl⟩
  | cons first above ih =>
    cases node with
    | file content stamps => simp [descend] at hinside
    | link target stamps => simp [descend] at hinside
    | directory entries stamps =>
      cases hchild : entries.find? first with
      | none => simp [descend, hchild] at hinside
      | some child =>
        simp only [List.cons_append, descend, hchild, Option.bind_some] at hinside hchange
        obtain ⟨child', hchild'⟩ := ih hinside hchange
        -- The equation of a change looks at two names, of which the second is there in any case.
        obtain ⟨next, rest, hrest⟩ : ∃ next rest, above ++ [name] = next :: rest :=
          List.exists_cons_of_ne_nil (by simp)
        rw [hrest] at hchild'
        exact ⟨_, by simp [hrest, update, hchild, hchild']; rfl⟩

end Node

namespace Disk

variable {disk disk' : Disk} {time : Int} {f : Option Node → Option Node}

theorem placeFor?_eq_some_iff : disk.placeFor? path = some place ↔
    path ≠ [] ∧ disk.Follows true mostLinks (disk.startOf path) (Text.pieces '/' path)
      place.reverse := by
  simp only [placeFor?, ← follow_eq_some_iff]
  split
  case isTrue hnil => simp [hnil]
  case isFalse hne => simp [hne, List.reverse_eq_iff]

theorem change_spec (h : disk.change time place f = some disk') :
    disk'.current = disk.current ∧ ∃ new, f (disk.nodeAt place) = some new ∧
      (∀ more, disk'.nodeAt (place ++ more) = new.descend more) ∧
      ∀ other, ¬ place <+: other → disk'.kindAt other = disk.kindAt other := by
  obtain ⟨root, hroot, rfl⟩ := Option.map_eq_some_iff.mp h
  exact ⟨rfl, Node.descend_update hroot⟩

theorem exists_change (time : Int) (hinside : disk.kindAt above = some .directory)
    (hf : f (disk.nodeAt (above ++ [name])) = some new) :
    ∃ disk', disk.change time (above ++ [name]) f = some disk' := by
  obtain ⟨root, hroot⟩ := Node.exists_update time hinside hf
  exact ⟨_, Option.map_eq_some_iff.mpr ⟨root, hroot, rfl⟩⟩

/-- A change takes nothing away that makes something where nothing was, or leaves a file a file. -/
theorem extends_of_change (h : disk.change time place f = some disk')
    (hf : ∀ new, f (disk.nodeAt place) = some new →
      disk.kindAt place = none ∨ (disk.kindAt place = some .file ∧ new.kind = .file)) :
    disk.Extends disk' := by
  obtain ⟨hcurrent, new, hnew, hbelow, hothers⟩ := change_spec h
  have hplace : disk'.kindAt place = some new.kind := by
    have hnode := hbelow []
    rw [List.append_nil, Node.descend] at hnode
    rw [kindAt, hnode, Option.map_some]
  refine ⟨hcurrent, fun other kind hkind => ?_⟩
  by_cases hprefix : place <+: other
  · obtain ⟨more, rfl⟩ := hprefix
    -- Nothing stood below the place: it held a file or nothing.
    have hmore : more = [] := by
      by_contra hne
      have hinside := kindAt_of_append hne hkind
      rcases hf new hnew with hnone | ⟨hfile, -⟩ <;> simp_all
    rw [hmore, List.append_nil] at hkind ⊢
    rcases hf new hnew with hnone | ⟨hfile, hnew⟩
    · simp [hnone] at hkind
    · rw [hplace, hnew, ← hfile, hkind]
  · rw [hothers other hprefix, hkind]

-- ---------------------------------------------------------------------------
-- Writing files
-- ---------------------------------------------------------------------------

theorem content?_write? (h : disk.write? time path content = some disk') :
    disk.Extends disk' ∧ disk'.content? path = some content := by
  obtain ⟨place, hplace, hchange⟩ := Option.bind_eq_some_iff.mp h
  obtain ⟨-, new, hnew, hbelow, -⟩ := change_spec hchange
  -- What stood there was a file or nothing, or the write would have failed.
  have hfile : ∃ stamps, new = .file content stamps ∧
      (disk.kindAt place = none ∨ disk.kindAt place = some .file) := by
    rw [kindAt]
    split at hnew
    case h_1 hold => exact ⟨_, (Option.some.inj hnew).symm, .inl (by rw [hold]; rfl)⟩
    case h_2 old stamps hold => exact ⟨_, (Option.some.inj hnew).symm, .inr (by rw [hold]; rfl)⟩
    case h_3 => cases hnew
  obtain ⟨stamps, rfl, hkind⟩ := hfile
  have hmore : disk.Extends disk' := by
    refine extends_of_change hchange fun new' hnew' => ?_
    obtain rfl := Option.some.inj (hnew.symm.trans hnew')
    exact hkind.imp_right fun hkind => ⟨hkind, rfl⟩
  have hnode : disk'.nodeAt place = some (.file content stamps) := by
    simpa [Node.descend] using hbelow []
  have hlocate : disk'.locate? path = some place := by
    obtain ⟨hne, hfollows⟩ := placeFor?_eq_some_iff.mp hplace
    refine locate?_eq_some_iff.mpr ⟨hne, ?_⟩
    rw [hmore.startOf]
    -- The path has been followed to the place before the write, and still leads there.
    apply hfollows.extends hmore
    rw [List.reverse_reverse]
    exact ⟨.file, by rw [kindAt, hnode]; rfl, by simp⟩
  exact ⟨hmore, by rw [content?, node?, hlocate, Option.bind_some, hnode]⟩

theorem exists_write? (time : Int) (content : ByteArray) (hplace : disk.placeFor? path = some place)
    (hfile : disk.kindAt place = none ∨ disk.kindAt place = some .file) :
    ∃ disk', disk.write? time path content = some disk' := by
  obtain ⟨-, hfollows⟩ := placeFor?_eq_some_iff.mp hplace
  have hstart := hfollows.inside (Text.pieces_ne_nil _ _)
  -- A path that is being written to ends at a name in a directory.
  rcases hfollows.attached (.inl hstart) with hdirectory | ⟨name, above, hfound, habove⟩
  · rw [List.reverse_reverse] at hdirectory
    simp [hdirectory] at hfile
  · obtain rfl : place = above.reverse ++ [name] := by simpa using congrArg List.reverse hfound
    rw [write?, hplace]
    rcases hfile with hfile | hfile
    · have hnode := Option.map_eq_none_iff.mp hfile
      exact exists_change time habove (by rw [hnode])
    · obtain ⟨node, hnode, hkind⟩ := Option.map_eq_some_iff.mp hfile
      cases node with
      | file old stamps => exact exists_change time habove (by rw [hnode])
      | link target stamps => cases hkind
      | directory entries stamps => cases hkind

-- ---------------------------------------------------------------------------
-- Making directories
-- ---------------------------------------------------------------------------

theorem makeDirectoriesFrom_filter (disk : Disk) (time : Int) (place ps : List Text) :
    disk.makeDirectoriesFrom time place ps =
      disk.makeDirectoriesFrom time place (ps.filter fun piece => !Path.isIdle piece) := by
  induction ps generalizing disk place with
  | nil => rfl
  | cons piece ps ih =>
    cases hidle : Path.isIdle piece with
    | true => simp [makeDirectoriesFrom, hidle, ih disk place]
    | false =>
      simp only [List.filter_cons, hidle, Bool.not_false, if_true, makeDirectoriesFrom, ih]

section Step

variable {place : List Text} (hnames : ∀ name ∈ place, IsFileName name)

include hnames

theorem pieces_below (hslash : '/' ∉ piece) :
    Text.pieces '/' ('/' :: Text.joinWith '/' (place ++ [piece])) = [] :: (place ++ [piece]) := by
  have hslashes : ∀ name ∈ place ++ [piece], '/' ∉ name := by
    intro name hname
    rcases List.mem_append.mp hname with hname | hname
    · exact (hnames name hname).2.2.2
    · exact List.mem_singleton.mp hname ▸ hslash
  have hne : place ++ [piece] ≠ [] := by simp
  simp [Text.pieces, Text.pieces_joinWith hne hslashes]

theorem not_mem_of_isFileName : ['.', '.'] ∉ place := fun hmem => (hnames _ hmem).2.2.1 rfl

private theorem locate?_step (hinside : disk.kindAt place = some .directory) (hslash : '/' ∉ piece)
    (h : disk.Follows false links place.reverse [piece] found) (hle : links ≤ mostLinks) :
    disk.locate? ('/' :: Text.joinWith '/' (place ++ [piece])) = some found.reverse := by
  have hroot : disk.kindAt [] = some .directory := by
    rw [← List.nil_append place] at hinside
    exact directory_of_append hinside
  -- The names of the place are spelled as they are, so no link is followed up to it.
  have hplace : disk.Follows false 0 [] place place.reverse := by
    have hspelled : (place.filter fun piece => !Path.isIdle piece).reverse ++ [] = place.reverse := by
      rw [Path.filter_of_isFileName hnames, List.append_nil]
    rw [← hspelled]
    apply follows_of_directory (not_mem_of_isFileName hnames)
    rwa [hspelled, List.reverse_reverse]
  refine locate?_eq_some_iff.mpr ⟨List.cons_ne_nil _ _, ?_⟩
  rw [pieces_below hnames hslash, List.reverse_reverse]
  exact .idle hroot rfl ((hplace.append h).mono (by omega))

private theorem locate?_missing (hinside : disk.kindAt place = some .directory) (hname : IsFileName name)
    (hmissing : disk.kindAt (place ++ [name]) = none) :
    disk.locate? ('/' :: Text.joinWith '/' (place ++ [name])) = none := by
  rw [Option.eq_none_iff_forall_not_mem]
  intro found hfound
  obtain ⟨-, hfollows⟩ := locate?_eq_some_iff.mp hfound
  have hstart : disk.startOf ('/' :: Text.joinWith '/' (place ++ [name])) = [] := rfl
  rw [hstart, pieces_below hnames hname.2.2.2] at hfollows
  obtain ⟨middle, links, -, hplace, hlast⟩ := hfollows.split
    (show [] :: (place ++ [name]) = ([] :: place) ++ [name] from rfl) (List.cons_ne_nil _ _)
  -- The spelling of the directory leads to the directory.
  have hmiddle : middle = place.reverse := by
    have hfilter : (([] :: place).filter fun piece => !Path.isIdle piece) = place :=
      Path.filter_of_isFileName hnames
    have hup : ['.', '.'] ∉ [] :: place := by simp [not_mem_of_isFileName hnames]
    have hpass := hplace.eq_of_stands hup
    rw [hfilter, List.append_nil, List.reverse_reverse] at hpass
    exact hpass (stands_of_directory hinside)
  rw [hmiddle] at hlast
  have hheld : disk.kindAt (name :: place.reverse).reverse = none := by
    simpa using hmissing
  generalize found.reverse = target at hlast
  -- A name at which nothing stands lets none of the rules go on.
  cases hlast with
  | idle inside idle => simp [Path.isIdle, hname.1, hname.2.1] at idle
  | up => exact hname.2.2.1 rfl
  | new inside name missing allowed => cases allowed
  | link inside name held => rw [hheld] at held; cases held
  | name inside name held => rw [hheld] at held; cases held

end Step

private theorem makeDirectoriesFrom_of_follows {links : Nat} {place ps found : List Text} (time : Int)
    (h : disk.Follows false links place ps found) (hle : links ≤ mostLinks)
    (hplace : ∀ name ∈ place, IsFileName name) (hps : ∀ piece ∈ ps, '/' ∉ piece)
    (hfound : disk.kindAt found.reverse = some .directory) (more : List Text) :
    disk.makeDirectoriesFrom time place.reverse (ps ++ more) =
      disk.makeDirectoriesFrom time found.reverse more := by
  induction ps generalizing links place with
  | nil =>
    cases h with
    | done => rfl
  | cons piece ps ih =>
    obtain ⟨hpiece, hps⟩ := List.forall_mem_cons.mp hps
    obtain ⟨middle, links', hle', hstep, hrest⟩ := h.uncons
    have hmiddle : ∀ name ∈ middle, IsFileName name :=
      hstep.isFileName hplace (by simpa using hpiece)
    rw [List.cons_append, makeDirectoriesFrom, ← ih hrest (hle'.trans hle) hmiddle hps]
    -- An idle piece makes nothing; at any other one there is a directory by now.
    cases hidle : Path.isIdle piece with
    | true =>
      rw [hstep.eq_of_isIdle hidle]
      exact if_pos rfl
    | false =>
      have hlocate : disk.locate? ('/' :: Text.joinWith '/' (place.reverse ++ [piece])) =
          some middle.reverse :=
        locate?_step (by simpa using hplace) (h.directory hfound) hpiece
          (by rwa [List.reverse_reverse]) hle
      simp [hlocate, isDirectoryAt_iff.mpr (hrest.directory hfound)]

def newDirectory (time : Int) : Option Node → Option Node
  | none => some (.directory .nil (.at time))
  | some _ => none

private theorem makeDirectoriesFrom_cons_of_missing {place : List Text} (hname : IsFileName name)
    (hmissing : disk.locate? ('/' :: Text.joinWith '/' (place ++ [name])) = none) :
    disk.makeDirectoriesFrom time place (name :: names) =
      (disk.change time (place ++ [name]) (newDirectory time)).bind
        fun disk => disk.makeDirectoriesFrom time (place ++ [name]) names := by
  have hidle : Path.isIdle name = false := by simp [Path.isIdle, hname.1, hname.2.1]
  rw [makeDirectoriesFrom, hidle, if_neg Bool.false_ne_true]
  simp only [hmissing]
  rfl

theorem exists_newDirectory (time : Int) (hinside : disk.kindAt place = some .directory)
    (hmissing : disk.kindAt (place ++ [name]) = none) :
    ∃ disk', disk.change time (place ++ [name]) (newDirectory time) = some disk' ∧
      disk.Extends disk' ∧ disk'.kindAt (place ++ [name]) = some .directory ∧
      ∀ below, disk'.kindAt (place ++ [name] ++ [below]) = none := by
  have hnode : newDirectory time (disk.nodeAt (place ++ [name])) =
      some (.directory .nil (.at time)) := by
    rw [Option.map_eq_none_iff.mp hmissing, newDirectory]
  obtain ⟨disk', hchange⟩ := exists_change time hinside hnode
  obtain ⟨-, new, hnew, hbelow, -⟩ := change_spec hchange
  obtain rfl := Option.some.inj (hnode.symm.trans hnew)
  -- What has been made is empty, so nothing is below it.
  refine ⟨disk', hchange, extends_of_change hchange fun _ _ => .inl hmissing, ?_, fun below => ?_⟩
  · have hmade := hbelow []
    rw [List.append_nil] at hmade
    rw [kindAt, hmade]
    rfl
  · rw [kindAt, hbelow]
    rfl

theorem exists_makeDirectoriesFrom (time : Int) {place names : List Text}
    (hplace : ∀ name ∈ place, IsFileName name) (hnames : ∀ name ∈ names, IsFileName name)
    (hinside : disk.kindAt place = some .directory)
    (hmissing : ∀ first ∈ (names ++ [last]).head?, disk.kindAt (place ++ [first]) = none) :
    ∃ disk', disk.makeDirectoriesFrom time place names = some disk' ∧ disk.Extends disk' ∧
      disk'.kindAt (place ++ names) = some .directory ∧
      disk'.kindAt (place ++ names ++ [last]) = none := by
  -- A directory that has just been made is empty, so the next name is missing again.
  induction names generalizing disk place with
  | nil =>
    refine ⟨disk, rfl, .refl disk, ?_, ?_⟩
    · rwa [List.append_nil]
    · rw [List.append_nil]
      exact hmissing last rfl
  | cons name names ih =>
    obtain ⟨hname, hnames⟩ := List.forall_mem_cons.mp hnames
    have hnew := hmissing name rfl
    obtain ⟨made, hchange, hmore, hmade, hempty⟩ := exists_newDirectory time hinside hnew
    have hplace' : ∀ other ∈ place ++ [name], IsFileName other := by
      simpa [or_imp, forall_and] using ⟨hplace, hname⟩
    obtain ⟨disk', hrest, hmore', hinside', hlast⟩ :=
      ih hplace' hnames hmade fun first _ => hempty first
    refine ⟨disk', ?_, hmore.trans hmore', ?_, ?_⟩
    · rw [makeDirectoriesFrom_cons_of_missing hname (locate?_missing hplace hinside hname hnew),
        hchange, Option.bind_some, hrest]
    · rwa [List.append_cons]
    · rwa [List.append_cons place name names]

-- ---------------------------------------------------------------------------
-- Writing below directories that may be missing
-- ---------------------------------------------------------------------------

/-- A file can be written under the path, once the directories that it needs have been made. -/
inductive Writable (disk : Disk) (path : Text) : Prop
  /-- The path leads to a file, or to where there is none in a directory. -/
  | present (place : List Text) (leads : disk.placeFor? path = some place)
      (file : disk.kindAt place = none ∨ disk.kindAt place = some .file)
  /-- The path leads to a directory, and names below it are missing from the first one on. -/
  | missing (front names : List Text) (last : Text) (place : List Text)
      (pieces : Text.pieces '/' path = front ++ names ++ [last])
      (leads : disk.Follows false mostLinks (disk.startOf path) front place)
      (inside : disk.kindAt place.reverse = some .directory)
      (up : ['.', '.'] ∉ names) (name : IsName last)
      (missing : ∀ first ∈ ((names.filter fun piece => !Path.isIdle piece) ++ [last]).head?,
        disk.kindAt (place.reverse ++ [first]) = none)

theorem makeDirectories?_eq {path dir : Text} (time : Int)
    (hrooted : Path.isRooted dir = Path.isRooted path)
    (hpieces : ((Text.pieces '/' dir).filter fun piece => !Path.isIdle piece) =
      front.filter fun piece => !Path.isIdle piece) :
    disk.makeDirectories? time dir =
      disk.makeDirectoriesFrom time (disk.startOf path).reverse front := by
  rw [makeDirectories?, makeDirectoriesFrom_filter, hpieces, ← makeDirectoriesFrom_filter, startOf,
    hrooted, ← startOf]

theorem placeFor?_of_made (hmore : disk.Extends made)
    (hpieces : Text.pieces '/' path = front ++ names ++ [last])
    (hleads : disk.Follows false mostLinks (disk.startOf path) front place)
    (hplace : disk.Stands place.reverse) (hup : ['.', '.'] ∉ names) (hname : IsName last)
    (hinside : made.kindAt (place.reverse ++ names.filter fun piece => !Path.isIdle piece) =
      some .directory)
    (hlast : made.kindAt (place.reverse ++ (names.filter fun piece => !Path.isIdle piece) ++
      [last]) = none) :
    made.placeFor? path =
      some (place.reverse ++ (names.filter fun piece => !Path.isIdle piece) ++ [last]) := by
  have hfront : made.Follows false mostLinks (made.startOf path) front place := by
    rw [hmore.startOf]
    apply hleads.extends hmore
    obtain ⟨kind, hkind, hunlinked⟩ := hplace
    exact ⟨kind, hmore.kinds _ _ hkind, hunlinked⟩
  have hnames : made.Follows false 0 place names
      ((names.filter fun piece => !Path.isIdle piece).reverse ++ place) :=
    follows_of_directory hup (by simpa using hinside)
  have hnew : made.Follows true 0
      ((names.filter fun piece => !Path.isIdle piece).reverse ++ place) [last] _ :=
    .new (by simpa using hinside) hname (by simpa using hlast) rfl
  refine placeFor?_eq_some_iff.mpr ⟨?_, ?_⟩
  · rintro rfl
    -- The empty path has one piece, which is no name.
    have hnil : [] = last := by simpa [Text.pieces] using congrArg List.getLast? hpieces
    exact absurd hname.1 (by simp [← hnil, Path.isIdle])
  · rw [hpieces]
    simpa using (hfront.append hnames).append hnew

theorem Writable.exists_write? (hcurrent : ∀ name ∈ disk.current, IsFileName name)
    (h : disk.Writable path) (time : Int) (content : ByteArray) :
    ∃ dir made disk', Path.parent? path = some dir ∧ disk.makeDirectories? time dir = some made ∧
      made.write? time path content = some disk' := by
  have hslash : ∀ piece ∈ Text.pieces '/' path, '/' ∉ piece := by
    intro piece hpiece
    exact Text.not_mem_of_mem_pieces hpiece
  have hstart := isFileName_of_startOf hcurrent path
  cases h with
  | present place leads file =>
    obtain ⟨front, last, hpieces⟩ := Text.exists_pieces_eq_concat '/' path
    obtain ⟨-, hfollows⟩ := placeFor?_eq_some_iff.mp leads
    obtain ⟨middle, links, -, hfront, hlast⟩ := hfollows.split hpieces (List.cons_ne_nil _ _)
    have hname : IsName last := by
      apply hlast.isName
      rw [List.reverse_reverse]
      rcases file with hnone | hfile <;> simp_all
    rw [hpieces] at hslash
    obtain ⟨hslash, -⟩ := List.forall_mem_append.mp hslash
    obtain ⟨dir, hdir, hrooted, hdirectory⟩ := Path.parent?_of_pieces hpieces hname.1 hname.2
    obtain ⟨disk', hwrite⟩ := Disk.exists_write? time content leads file
    -- The directories are all there, so none is made.
    have hmade := makeDirectoriesFrom_of_follows time hfront le_rfl hstart hslash
      (hlast.inside (List.cons_ne_nil _ _)) []
    refine ⟨dir, disk, disk', hdir, ?_, hwrite⟩
    rw [makeDirectories?_eq time hrooted hdirectory, ← List.append_nil front, hmade]
    rfl
  | missing front names last place pieces leads inside up name missing =>
    rw [pieces] at hslash
    obtain ⟨hslash, -⟩ := List.forall_mem_append.mp hslash
    obtain ⟨hslash, hslash'⟩ := List.forall_mem_append.mp hslash
    have hplace : ∀ name ∈ place.reverse, IsFileName name := by
      intro name hname
      exact leads.isFileName hstart hslash name (List.mem_reverse.mp hname)
    obtain ⟨dir, hdir, hrooted, hdirectory⟩ := Path.parent?_of_pieces pieces name.1 name.2
    -- Those that are there are walked through, and the names behind them are made.
    have hwalk := makeDirectoriesFrom_of_follows time leads le_rfl hstart hslash inside names
    obtain ⟨made, hmade, hmore, hinside, hlast⟩ := exists_makeDirectoriesFrom time hplace
      (isFileName_of_mem_filter up hslash') inside missing
    have hleads := placeFor?_of_made hmore pieces leads (stands_of_directory inside) up name
      hinside hlast
    obtain ⟨disk', hwrite⟩ := Disk.exists_write? time content hleads (.inl hlast)
    refine ⟨dir, made, disk', hdir, ?_, hwrite⟩
    rw [makeDirectories?_eq time hrooted hdirectory, hwalk, makeDirectoriesFrom_filter, hmade]

end Disk

end Relabel
