import Relabel.Disk.Basic
import Relabel.Proofs.Path.Components

/-!
# Following paths

How a path is followed depends on what stands where, be it a file, a link or a directory, and not on
what the files hold. `Follows` has one rule for each kind of piece. A path that has been followed
ends below directories, at something that is no link (`Follows.stands`), and a disk with more on it
does not lead it elsewhere (`Follows.extends`).
-/

namespace Relabel

open Relabel.Path (IsFileName)

inductive NodeKind
  | file
  | link (target : Text)
  | directory
deriving DecidableEq, Repr

def Node.kind : Node → NodeKind
  | .file .. => .file
  | .link target _ => .link target
  | .directory .. => .directory

theorem Node.descend_append (node : Node) (names more : List Text) :
    node.descend (names ++ more) = (node.descend names).bind (·.descend more) := by
  induction names generalizing node with
  | nil => simp [descend]
  | cons name names ih =>
    cases node with
    | directory entries stamps => cases h : entries.find? name <;> simp [descend, h, ih]
    | file content stamps => simp [descend]
    | link target stamps => simp [descend]

namespace Disk

def kindAt (disk : Disk) (place : List Text) : Option NodeKind :=
  (disk.nodeAt place).map Node.kind

theorem isDirectoryAt_iff {disk : Disk} {place : List Text} :
    disk.isDirectoryAt place = true ↔ disk.kindAt place = some .directory := by
  simp only [isDirectoryAt, kindAt]
  cases disk.nodeAt place with
  | none => simp
  | some node => cases node <;> simp [Node.isDirectory, Node.kind]

theorem kindAt_of_append {disk : Disk} {place more : List Text} (hmore : more ≠ [])
    (h : disk.kindAt (place ++ more) = some kind) : disk.kindAt place = some .directory := by
  obtain ⟨name, more, rfl⟩ := List.exists_cons_of_ne_nil hmore
  rw [kindAt, nodeAt, Node.descend_append] at h
  rw [kindAt, nodeAt]
  cases hnode : disk.root.descend place with
  | none => simp [hnode] at h
  | some node => cases node <;> simp_all [Node.descend, Node.kind]

/-- The piece is a name and no way to stay or to go up. -/
def IsName (piece : Text) : Prop := Path.isIdle piece = false ∧ piece ≠ ['.', '.']

/-- Where pieces of a path lead from a place, when so many links may be followed. The names of a
place come last one first. -/
inductive Follows (disk : Disk) (fresh : Bool) :
    Nat → List Text → List Text → List Text → Prop
  | done : Follows disk fresh links place [] place
  | idle (inside : disk.kindAt place.reverse = some .directory) (idle : Path.isIdle piece = true)
      (rest : Follows disk fresh links place ps found) :
      Follows disk fresh links place (piece :: ps) found
  | up (inside : disk.kindAt place.reverse = some .directory)
      (rest : Follows disk fresh links place.tail ps found) :
      Follows disk fresh links place (['.', '.'] :: ps) found
  | new (inside : disk.kindAt place.reverse = some .directory) (name : IsName piece)
      (missing : disk.kindAt (piece :: place).reverse = none) (allowed : fresh = true) :
      Follows disk fresh links place [piece] (piece :: place)
  | link (inside : disk.kindAt place.reverse = some .directory) (name : IsName piece)
      (held : disk.kindAt (piece :: place).reverse = some (.link target))
      (rest : Follows disk fresh links (if Path.isRooted target then [] else place)
        (Text.pieces '/' target ++ ps) found) :
      Follows disk fresh (links + 1) place (piece :: ps) found
  | name (inside : disk.kindAt place.reverse = some .directory) (name : IsName piece)
      (held : disk.kindAt (piece :: place).reverse = some kind)
      (unlinked : ∀ target, kind ≠ .link target)
      (rest : Follows disk fresh links (piece :: place) ps found) :
      Follows disk fresh links place (piece :: ps) found

variable {disk disk' : Disk} {fresh : Bool} {links : Nat} {place ps found : List Text}

theorem follows_of_follow {links : Nat} {place ps : List Text}
    (h : disk.follow fresh links place ps = some found) :
    disk.Follows fresh links place ps found := by
  -- The cases are those of `follow`, in the order in which it tries them.
  cases ps with
  | nil =>
    rw [follow] at h
    exact Option.some.inj h ▸ .done
  | cons piece ps =>
    rw [follow] at h
    split at h
    case isTrue => cases h
    case isFalse hinside =>
    have inside := isDirectoryAt_iff.mp (by simpa using hinside)
    split at h
    case isTrue hidle => exact .idle inside hidle (follows_of_follow h)
    case isFalse hidle =>
    split at h
    case isTrue hup =>
      subst hup
      exact .up inside (follows_of_follow h)
    case isFalse hup =>
    have name : IsName piece := ⟨by simpa using hidle, hup⟩
    cases hheld : disk.nodeAt (piece :: place).reverse with
    | none =>
      simp only [hheld] at h
      split at h
      case isFalse => cases h
      case isTrue hnew =>
        obtain ⟨hfresh, rfl⟩ := hnew
        obtain rfl := Option.some.inj h
        exact .new inside name (by rw [kindAt, hheld]; rfl) hfresh
    | some node =>
      have held : disk.kindAt (piece :: place).reverse = some node.kind := by rw [kindAt, hheld]; rfl
      simp only [hheld] at h
      cases node with
      | link target stamps =>
        cases links with
        | zero => cases h
        | succ links => exact .link inside name held (follows_of_follow h)
      | file content stamps =>
        exact .name inside name held (by simp [Node.kind]) (follows_of_follow h)
      | directory entries stamps =>
        exact .name inside name held (by simp [Node.kind]) (follows_of_follow h)
termination_by (links, ps.length)

theorem Follows.follow_eq (h : disk.Follows fresh links place ps found) :
    disk.follow fresh links place ps = some found := by
  induction h with
  | done => rw [follow]
  | idle inside idle rest ih => simp [follow, isDirectoryAt_iff.mpr inside, idle, ih]
  | up inside rest ih => simp [follow, isDirectoryAt_iff.mpr inside, Path.isIdle, ih]
  | new inside name missing allowed =>
    have hnone := Option.map_eq_none_iff.mp missing
    rw [follow, hnone]
    simp [isDirectoryAt_iff.mpr inside, name.1, name.2, allowed]
  | link inside name held rest ih =>
    obtain ⟨node, hnode, hkind⟩ := Option.map_eq_some_iff.mp held
    cases node with
    | link target stamps =>
      obtain rfl := NodeKind.link.inj hkind
      rw [follow, hnode]
      simpa [isDirectoryAt_iff.mpr inside, name.1, name.2] using ih
    | file content stamps => cases hkind
    | directory entries stamps => cases hkind
  | name inside name held unlinked rest ih =>
    obtain ⟨node, hnode, rfl⟩ := Option.map_eq_some_iff.mp held
    rw [follow, hnode]
    cases node with
    | link target stamps => exact absurd rfl (unlinked target)
    | file content stamps => simpa [isDirectoryAt_iff.mpr inside, name.1, name.2] using ih
    | directory entries stamps => simpa [isDirectoryAt_iff.mpr inside, name.1, name.2] using ih

theorem follow_eq_some_iff : disk.follow fresh links place ps = some found ↔
    disk.Follows fresh links place ps found :=
  ⟨follows_of_follow, Follows.follow_eq⟩

theorem locate?_eq_some_iff {path : Text} : disk.locate? path = some found ↔
    path ≠ [] ∧ disk.Follows false mostLinks (disk.startOf path) (Text.pieces '/' path)
      found.reverse := by
  simp only [locate?, ← follow_eq_some_iff]
  split
  case isTrue hnil => simp [hnil]
  case isFalse hne => simp [hne, List.reverse_eq_iff]

-- ---------------------------------------------------------------------------
-- Where a path ends
-- ---------------------------------------------------------------------------

/-- Something stands at the place, and it is no link. -/
def Stands (disk : Disk) (place : List Text) : Prop :=
  ∃ kind, disk.kindAt place = some kind ∧ ∀ target, kind ≠ .link target

theorem stands_of_directory (h : disk.kindAt place = some .directory) : disk.Stands place :=
  ⟨.directory, h, by simp⟩

theorem directory_of_append {more : List Text}
    (h : disk.kindAt (place ++ more) = some .directory) : disk.kindAt place = some .directory := by
  by_cases hmore : more = []
  · rwa [hmore, List.append_nil] at h
  · exact kindAt_of_append hmore h

theorem stands_of_append {more : List Text} (h : disk.Stands (place ++ more)) :
    disk.Stands place := by
  by_cases hmore : more = []
  · rwa [hmore, List.append_nil] at h
  · obtain ⟨kind, hkind, -⟩ := h
    exact stands_of_directory (kindAt_of_append hmore hkind)

theorem directory_of_tail (h : disk.kindAt place.reverse = some .directory) :
    disk.kindAt place.tail.reverse = some .directory := by
  cases place with
  | nil => exact h
  | cons name place =>
    rw [List.reverse_cons] at h
    exact kindAt_of_append (List.cons_ne_nil name []) h

/-- A path that has pieces is followed from a directory on, so it matters without pieces only where
it starts. -/
theorem Follows.stands (h : disk.Follows false links place ps found)
    (hplace : ps = [] → disk.Stands place.reverse) : disk.Stands found.reverse := by
  induction h with
  | done => exact hplace rfl
  | idle inside idle rest ih => exact ih fun _ => stands_of_directory inside
  | up inside rest ih => exact ih fun _ => stands_of_directory (directory_of_tail inside)
  | new inside name missing allowed => cases allowed
  | link inside name held rest ih =>
    exact ih fun hnil => absurd (List.append_eq_nil_iff.mp hnil).1 (Text.pieces_ne_nil _ _)
  | name inside name held unlinked rest ih => exact ih fun _ => ⟨_, held, unlinked⟩

theorem stands_of_locate? (h : disk.locate? path = some place) : disk.Stands place := by
  obtain ⟨-, hfollows⟩ := locate?_eq_some_iff.mp h
  have hstands := hfollows.stands fun hnil => absurd hnil (Text.pieces_ne_nil _ _)
  rwa [List.reverse_reverse] at hstands

theorem IsName.isFileName (h : IsName piece) (hslash : '/' ∉ piece) : IsFileName piece := by
  have hidle := h.1
  simp only [Path.isIdle, Bool.or_eq_false_iff, beq_eq_false_iff_ne] at hidle
  exact ⟨hidle.1, hidle.2, h.2, hslash⟩

theorem isFileName_of_mem_filter (hup : ['.', '.'] ∉ ps) (hps : ∀ piece ∈ ps, '/' ∉ piece) :
    ∀ piece ∈ ps.filter fun piece => !Path.isIdle piece, IsFileName piece := by
  intro piece hpiece
  obtain ⟨hmem, hidle⟩ := List.mem_filter.mp hpiece
  have hname : IsName piece := ⟨by simpa using hidle, fun heq => hup (heq ▸ hmem)⟩
  exact hname.isFileName (hps piece hmem)

theorem Follows.isFileName (h : disk.Follows fresh links place ps found)
    (hplace : ∀ name ∈ place, IsFileName name) (hps : ∀ piece ∈ ps, '/' ∉ piece) :
    ∀ name ∈ found, IsFileName name := by
  induction h with
  | done => exact hplace
  | idle inside idle rest ih => exact ih hplace (List.forall_mem_cons.mp hps).2
  | up inside rest ih =>
    exact ih (fun name hname => hplace name (List.mem_of_mem_tail hname))
      (List.forall_mem_cons.mp hps).2
  | new inside name missing allowed =>
    exact List.forall_mem_cons.mpr ⟨name.isFileName (hps _ List.mem_cons_self), hplace⟩
  | link inside name held rest ih =>
    -- A link is followed from the root or from where it stands, by the pieces that it spells.
    refine ih ?_ ?_
    · split
      · exact List.forall_mem_nil _
      · exact hplace
    · intro piece hpiece
      rcases List.mem_append.mp hpiece with hpiece | hpiece
      · exact Text.not_mem_of_mem_pieces hpiece
      · exact hps piece (List.mem_cons_of_mem _ hpiece)
  | name inside name held unlinked rest ih =>
    obtain ⟨hpiece, hps⟩ := List.forall_mem_cons.mp hps
    exact ih (List.forall_mem_cons.mpr ⟨name.isFileName hpiece, hplace⟩) hps

theorem isFileName_of_startOf (hcurrent : ∀ name ∈ disk.current, IsFileName name) (path : Text) :
    ∀ name ∈ disk.startOf path, IsFileName name := by
  intro name hname
  rw [startOf] at hname
  split at hname
  case isTrue => cases hname
  case isFalse => exact hcurrent name (List.mem_reverse.mp hname)

theorem isFileName_of_locate? (hcurrent : ∀ name ∈ disk.current, IsFileName name)
    (h : disk.locate? path = some place) : ∀ name ∈ place, IsFileName name := by
  obtain ⟨-, hfollows⟩ := locate?_eq_some_iff.mp h
  have hnames := hfollows.isFileName (isFileName_of_startOf hcurrent path)
    fun piece hpiece => Text.not_mem_of_mem_pieces hpiece
  exact fun name hname => hnames name (List.mem_reverse.mpr hname)

theorem Follows.eq_of_stands (h : disk.Follows false links place ps found)
    (hup : ['.', '.'] ∉ ps)
    (hstands : disk.Stands ((ps.filter fun piece => !Path.isIdle piece).reverse ++ place).reverse) :
    found = (ps.filter fun piece => !Path.isIdle piece).reverse ++ place := by
  induction h with
  | done => rfl
  | idle inside idle rest ih =>
    have hpass := ih (List.not_mem_of_not_mem_cons hup)
    simp only [List.filter_cons, idle, Bool.not_true, Bool.false_eq_true, if_false] at hstands ⊢
    exact hpass hstands
  | up inside rest ih => exact absurd List.mem_cons_self hup
  | new inside name missing allowed => cases allowed
  | link inside name held rest ih =>
    -- Neither at a link nor below it anything stands.
    simp only [List.filter_cons, name.1, Bool.not_false, if_true, List.reverse_append,
      List.reverse_reverse] at hstands
    rw [List.append_cons] at hstands
    obtain ⟨kind, hkind, hunlinked⟩ := stands_of_append hstands
    rw [List.reverse_cons, hkind] at held
    exact absurd (Option.some.inj held) (hunlinked _)
  | name inside name held unlinked rest ih =>
    have hpass := ih (List.not_mem_of_not_mem_cons hup)
    simp only [List.filter_cons, name.1, Bool.not_false, if_true, List.reverse_cons,
      List.append_assoc, List.singleton_append] at hstands ⊢
    exact hpass hstands

theorem follows_of_directory (hup : ['.', '.'] ∉ ps)
    (h : disk.kindAt ((ps.filter fun piece => !Path.isIdle piece).reverse ++ place).reverse =
      some .directory) :
    disk.Follows fresh 0 place ps ((ps.filter fun piece => !Path.isIdle piece).reverse ++ place) := by
  induction ps generalizing place with
  | nil => exact .done
  | cons piece ps ih =>
    obtain ⟨hpiece, hps⟩ := not_or.mp (List.mem_cons.not.mp hup)
    -- Directories all the way: the one at the end has them above it.
    have inside : disk.kindAt place.reverse = some .directory := by
      rw [List.reverse_append] at h
      exact directory_of_append h
    cases hidle : Path.isIdle piece with
    | true =>
      simp only [List.filter_cons, hidle, Bool.not_true, Bool.false_eq_true, if_false] at h ⊢
      exact .idle inside hidle (ih hps h)
    | false =>
      simp only [List.filter_cons, hidle, Bool.not_false, if_true, List.reverse_cons,
        List.append_assoc, List.singleton_append] at h ⊢
      have held : disk.kindAt (piece :: place).reverse = some .directory := by
        rw [List.reverse_append] at h
        exact directory_of_append h
      exact .name inside ⟨hidle, Ne.symm hpiece⟩ held (by simp) (ih hps h)

-- ---------------------------------------------------------------------------
-- Parts of a path
-- ---------------------------------------------------------------------------

theorem Follows.mono (h : disk.Follows fresh links place ps found) (hle : links ≤ links') :
    disk.Follows fresh links' place ps found := by
  induction h generalizing links' with
  | done => exact .done
  | idle inside idle rest ih => exact .idle inside idle (ih hle)
  | up inside rest ih => exact .up inside (ih hle)
  | new inside name missing allowed => exact .new inside name missing allowed
  | link inside name held rest ih =>
    obtain ⟨links', rfl⟩ := Nat.exists_eq_add_of_le' (Nat.lt_of_lt_of_le (Nat.succ_pos _) hle)
    exact .link inside name held (ih (Nat.le_of_succ_le_succ hle))
  | name inside name held unlinked rest ih => exact .name inside name held unlinked (ih hle)

theorem Follows.append {qs middle : List Text} (h : disk.Follows false links place ps middle)
    (h' : disk.Follows fresh links' middle qs found) :
    disk.Follows fresh (links + links') place (ps ++ qs) found := by
  induction h with
  | done => exact h'.mono (Nat.le_add_left _ _)
  | idle inside idle rest ih => exact .idle inside idle (ih h')
  | up inside rest ih => exact .up inside (ih h')
  | new inside name missing allowed => cases allowed
  | link inside name held rest ih =>
    have hrest := ih h'
    rw [List.append_assoc] at hrest
    -- The link takes one of those that are left for the first part.
    rw [Nat.add_right_comm]
    exact .link inside name held hrest
  | name inside name held unlinked rest ih => exact .name inside name held unlinked (ih h')

/-- A path that goes on is followed up to there, and from there on with the links that are left. -/
theorem Follows.split {front back : List Text} (h : disk.Follows fresh links place ps found)
    (hps : ps = front ++ back) (hback : back ≠ []) :
    ∃ middle links', links' ≤ links ∧ disk.Follows false links place front middle ∧
      disk.Follows fresh links' middle back found := by
  induction h generalizing front with
  | done => exact absurd (List.append_eq_nil_iff.mp hps.symm).2 hback
  | idle inside idle rest ih =>
    cases front with
    | nil =>
      obtain rfl : _ = back := hps
      exact ⟨_, _, le_rfl, .done, .idle inside idle rest⟩
    | cons first front =>
      obtain ⟨rfl, hrest⟩ := List.cons.inj hps
      obtain ⟨middle, links', hle, hfront, hback⟩ := ih hrest
      exact ⟨middle, links', hle, .idle inside idle hfront, hback⟩
  | up inside rest ih =>
    cases front with
    | nil =>
      obtain rfl : _ = back := hps
      exact ⟨_, _, le_rfl, .done, .up inside rest⟩
    | cons first front =>
      obtain ⟨rfl, hrest⟩ := List.cons.inj hps
      obtain ⟨middle, links', hle, hfront, hback⟩ := ih hrest
      exact ⟨middle, links', hle, .up inside hfront, hback⟩
  | new inside name missing allowed =>
    cases front with
    | nil =>
      obtain rfl : _ = back := hps
      exact ⟨_, _, le_rfl, .done, .new inside name missing allowed⟩
    | cons first front =>
      exact absurd (List.append_eq_nil_iff.mp (List.cons.inj hps).2.symm).2 hback
  | link inside name held rest ih =>
    cases front with
    | nil =>
      obtain rfl : _ = back := hps
      exact ⟨_, _, le_rfl, .done, .link inside name held rest⟩
    | cons first front =>
      -- The target of the link belongs to the part of the path in which the link stands.
      obtain ⟨rfl, rfl⟩ := List.cons.inj hps
      obtain ⟨middle, links', hle, hfront, hback⟩ := ih (List.append_assoc _ _ _).symm
      exact ⟨middle, links', Nat.le_succ_of_le hle, .link inside name held hfront, hback⟩
  | name inside name held unlinked rest ih =>
    cases front with
    | nil =>
      obtain rfl : _ = back := hps
      exact ⟨_, _, le_rfl, .done, .name inside name held unlinked rest⟩
    | cons first front =>
      obtain ⟨rfl, hrest⟩ := List.cons.inj hps
      obtain ⟨middle, links', hle, hfront, hback⟩ := ih hrest
      exact ⟨middle, links', hle, .name inside name held unlinked hfront, hback⟩

theorem Follows.uncons (h : disk.Follows false links place (piece :: ps) found) :
    ∃ middle links', links' ≤ links ∧ disk.Follows false links place [piece] middle ∧
      disk.Follows false links' middle ps found := by
  by_cases hps : ps = []
  · subst hps
    exact ⟨found, links, le_rfl, h, .done⟩
  · exact h.split (show piece :: ps = [piece] ++ ps from rfl) hps

theorem Follows.eq_of_isIdle (h : disk.Follows false links place [piece] found)
    (hidle : Path.isIdle piece = true) : found = place := by
  cases h with
  | idle inside idle rest =>
    cases rest
    rfl
  | up inside rest => cases hidle
  | new inside name => rw [name.1] at hidle; cases hidle
  | link inside name => rw [name.1] at hidle; cases hidle
  | name inside name => rw [name.1] at hidle; cases hidle

theorem Follows.inside (h : disk.Follows fresh links place ps found) (hps : ps ≠ []) :
    disk.kindAt place.reverse = some .directory := by
  cases h with
  | done => exact absurd rfl hps
  | idle inside => exact inside
  | up inside => exact inside
  | new inside => exact inside
  | link inside => exact inside
  | name inside => exact inside

theorem Follows.directory (h : disk.Follows fresh links place ps found)
    (hfound : disk.kindAt found.reverse = some .directory) :
    disk.kindAt place.reverse = some .directory := by
  by_cases hps : ps = []
  · subst hps
    cases h
    exact hfound
  · exact h.inside hps

theorem Follows.isName (h : disk.Follows fresh links place [last] found)
    (hfound : disk.kindAt found.reverse ≠ some .directory) : IsName last := by
  cases h with
  | idle inside idle rest =>
    cases rest with
    | done => exact absurd inside hfound
  | up inside rest =>
    cases rest with
    | done => exact absurd (directory_of_tail inside) hfound
  | new inside name => exact name
  | link inside name => exact name
  | name inside name => exact name

/-- The place, last name first, is a directory or a name in one. -/
def Attached (disk : Disk) (place : List Text) : Prop :=
  disk.kindAt place.reverse = some .directory ∨
    ∃ name above, place = name :: above ∧ disk.kindAt above.reverse = some .directory

theorem Follows.attached (h : disk.Follows fresh links place ps found)
    (hplace : disk.Attached place) : disk.Attached found := by
  induction h with
  | done => exact hplace
  | idle inside idle rest ih => exact ih (.inl inside)
  | up inside rest ih => exact ih (.inl (directory_of_tail inside))
  | new inside name missing allowed => exact .inr ⟨_, _, rfl, inside⟩
  | link inside name held rest ih =>
    refine ih (.inl ?_)
    split
    · rw [← List.nil_append (List.reverse _)] at inside
      exact directory_of_append inside
    · exact inside
  | name inside name held unlinked rest ih => exact ih (.inr ⟨_, _, rfl, inside⟩)

-- ---------------------------------------------------------------------------
-- More on the disk
-- ---------------------------------------------------------------------------

/-- Whatever stands on the one disk stands on the other one too, which may hold more. -/
structure Extends (disk disk' : Disk) : Prop where
  current : disk'.current = disk.current
  kinds : ∀ place kind, disk.kindAt place = some kind → disk'.kindAt place = some kind

theorem Extends.refl (disk : Disk) : disk.Extends disk := ⟨rfl, fun _ _ h => h⟩

theorem Extends.trans {disk'' : Disk} (h : disk.Extends disk') (h' : disk'.Extends disk'') :
    disk.Extends disk'' :=
  ⟨h'.current.trans h.current, fun _ _ hkind => h'.kinds _ _ (h.kinds _ _ hkind)⟩

theorem Extends.startOf (h : disk.Extends disk') (path : Text) :
    disk'.startOf path = disk.startOf path := by
  rw [Disk.startOf, Disk.startOf, h.current]

/-- Where a path leads to, it leads to on a disk with more on it, once something stands there. -/
theorem Follows.extends (h : disk.Follows fresh links place ps found) (hmore : disk.Extends disk')
    (hstands : disk'.Stands found.reverse) : disk'.Follows false links place ps found := by
  induction h with
  | done => exact .done
  | idle inside idle rest ih => exact .idle (hmore.kinds _ _ inside) idle (ih hstands)
  | up inside rest ih => exact .up (hmore.kinds _ _ inside) (ih hstands)
  | new inside name missing allowed =>
    obtain ⟨kind, hkind, hunlinked⟩ := hstands
    exact .name (hmore.kinds _ _ inside) name hkind hunlinked .done
  | link inside name held rest ih =>
    exact .link (hmore.kinds _ _ inside) name (hmore.kinds _ _ held) (ih hstands)
  | name inside name held unlinked rest ih =>
    exact .name (hmore.kinds _ _ inside) name (hmore.kinds _ _ held) unlinked (ih hstands)

end Disk

end Relabel
