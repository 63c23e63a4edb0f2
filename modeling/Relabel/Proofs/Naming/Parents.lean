import Relabel.Proofs.Naming.NameOnly
import Relabel.Proofs.Path.Ancestors

/-!
# The names of the directories above a file

The name of a directory above a file is read off the spelling of its path and, where that shows no
name, off its place on the disk. The place always tells it. The spelling does unless a `..` stands
behind the name: then the name is that of a directory beside the way to the file, and is right by
chance only (`parentName_eq_ancestorName_iff`).
-/

namespace Relabel

open Relabel.Path (IsFileName nameAbove? upsBehind walk)

-- ---------------------------------------------------------------------------
-- Files that are reached without a link
-- ---------------------------------------------------------------------------

namespace Disk

/-- The pieces of a path lead from one place to another, from directory to directory, and none of
them comes to a link. The names of a place come last one first. -/
inductive Leads (disk : Disk) : List Text → List Text → List Text → Prop
  | here : Leads disk place [] place
  | through (inside : disk.isDirectoryAt place.reverse = true)
      (held : disk.nodeAt (Path.enter place piece).reverse = some node)
      (unlinked : ∀ target stamps, node ≠ .link target stamps)
      (rest : Leads disk (Path.enter place piece) ps found) : Leads disk place (piece :: ps) found

structure Reaches (disk : Disk) (path : Text) (place : List Text) : Prop where
  nonempty : path ≠ []
  leads : disk.Leads (disk.startOf path) (Text.pieces '/' path) place.reverse

variable {disk : Disk} {place : List Text}

theorem Leads.eq_foldl_enter (h : disk.Leads place ps found) :
    found = ps.foldl Path.enter place := by
  induction h with
  | here => rfl
  | through inside held unlinked rest ih => exact ih

theorem Leads.follow_eq (h : disk.Leads place ps found) (lastLink : Bool) (links : Nat) :
    disk.follow lastLink links place ps = some found := by
  induction h with
  | here => simp [follow]
  | @through place piece node ps found inside held unlinked rest ih =>
    rw [follow, inside]
    by_cases hidle : Path.isIdle piece = true
    · rw [Path.enter_of_idle hidle] at ih
      simpa [hidle] using ih
    · have hidle : Path.isIdle piece = false := by simpa using hidle
      -- A `..` is no name, so what stands there does not count.
      by_cases hup : piece = ['.', '.']
      · subst hup
        rw [Path.enter_up] at ih
        simpa [hidle] using ih
      · rw [Path.enter_name hidle hup] at held ih
        simp only [hidle, hup, held, Bool.not_true, Bool.false_eq_true, ↓reduceIte]
        cases node with
        | link target stamps => exact absurd rfl (unlinked target stamps)
        | file content stamps => exact ih
        | directory entries stamps => exact ih

theorem Reaches.locate?_eq (h : disk.Reaches path place) : disk.locate? path = some place := by
  simp [locate?, h.nonempty, h.leads.follow_eq]

theorem Reaches.reverse_eq_walk (h : disk.Reaches path place) :
    place.reverse = walk path disk.current.reverse :=
  h.leads.eq_foldl_enter

theorem Reaches.isFileName (hcurrent : ∀ name ∈ disk.current, IsFileName name)
    (h : disk.Reaches path place) : ∀ name ∈ place, IsFileName name := by
  intro name hname
  have hmem : name ∈ walk path disk.current.reverse := by
    rw [← h.reverse_eq_walk]
    exact List.mem_reverse.mpr hname
  exact Path.isFileName_of_mem_walk (by simpa using hcurrent) hmem

end Disk

-- ---------------------------------------------------------------------------
-- What the place tells
-- ---------------------------------------------------------------------------

variable {disk : Disk} {place : List Text}

/-- The name of the directory so many levels above a place, whose names come from the root on; the
root has none. -/
def ancestorName (place : List Text) (levels : Nat) : Text := (place.reverse.drop levels).headD []

private theorem fileName?_below_root (h : Path.components path = .root :: place.map .name) :
    (Path.fileName? path).getD [] = place.reverse.headD [] := by
  rw [Path.fileName?, h]
  cases place using List.reverseRecOn with
  | nil => rfl
  | append_singleton place last => simp [List.getLast?_cons]

theorem nameAbove?_canonical (h : ∀ name ∈ place, IsFileName name) (levels : Nat) :
    (nameAbove? ('/' :: Text.joinWith '/' place) levels).getD [] = ancestorName place levels := by
  have hcomponents := Path.components_canonical h
  by_cases hlevels : levels ≤ place.length
  · obtain ⟨above, below, rfl, rfl⟩ :
        ∃ above below, place = above ++ below ∧ levels = below.length := by
      refine ⟨place.rdrop levels, place.rtake levels, (List.take_append_drop _ _).symm, ?_⟩
      rw [List.rtake, List.length_drop]
      omega
    rw [List.map_append, ← List.cons_append] at hcomponents
    obtain ⟨dir, hdir, hfront⟩ := Path.exists_ancestor? hcomponents
    have hname := fileName?_below_root hfront
    simpa [nameAbove?, hdir, ancestorName] using hname
  · have habove : ancestorName place levels = [] := by
      have hnone : place.reverse.drop levels = [] := List.drop_eq_nil_of_le (by simp; omega)
      simp [ancestorName, hnone]
    rw [habove, nameAbove?]
    cases hdir : Path.ancestor? ('/' :: Text.joinWith '/' place) levels with
    | none => rfl
    | some dir =>
      -- Above the root there would be no component left.
      have hnone : Path.components dir = [] := by
        rw [Path.components_ancestor? hdir, hcomponents, List.rdrop]
        refine List.take_eq_nil_iff.mpr (.inl ?_)
        rw [List.length_cons, List.length_map]
        omega
      simp [Path.fileName?, hnone]

-- ---------------------------------------------------------------------------
-- What the spelling tells
-- ---------------------------------------------------------------------------

/-- The spelling of a path shows no name for the directory so many levels above it, or a right one.
A `..` behind a name takes another name back, so for each of them the directory that has to be
named is two levels above the spelled one. -/
def Disk.TellsAbove (disk : Disk) (path : Text) (levels : Nat) : Prop :=
  ∀ dir name, Path.ancestor? path levels = some dir → Path.fileName? dir = some name →
    ancestorName (walk dir disk.current.reverse).reverse (2 * upsBehind path levels) = name

theorem tellsAbove_of_upsBehind_eq_zero (h : upsBehind path levels = 0) :
    disk.TellsAbove path levels := by
  intro dir name hdir hname
  obtain ⟨hhead, -⟩ := Path.walk_ancestor? disk.current.reverse hdir hname
  simp [ancestorName, h, List.headD_eq_head?_getD, hhead]

/-- The spelling is asked first and the place only where no name is spelled, so that the name is
right whenever the spelling tells it. -/
theorem parentName_eq_ancestorName_iff (hcurrent : ∀ name ∈ disk.current, IsFileName name)
    (h : disk.Reaches path place) (levels : Nat) :
    parentName disk path levels = ancestorName place levels ↔ disk.TellsAbove path levels := by
  have hparent : parentName disk path levels =
      ((nameAbove? path levels).or
        ((disk.canonical? path).bind fun path => nameAbove? path levels)).getD [] := rfl
  cases hspelled : nameAbove? path levels with
  -- Without a spelled name the place is asked, which tells the right one.
  | none =>
    have hcanonical : disk.canonical? path = some ('/' :: Text.joinWith '/' place) := by
      simp [Disk.canonical?, h.locate?_eq]
    have hplace := nameAbove?_canonical (h.isFileName hcurrent) levels
    have htells : disk.TellsAbove path levels := by
      intro dir name hdir hname
      simp [nameAbove?, hdir, hname] at hspelled
    simp [hparent, hspelled, hcanonical, hplace, htells]
  | some name =>
    obtain ⟨dir, hdir, hname⟩ := Option.bind_eq_some_iff.mp hspelled
    obtain ⟨-, hdrop⟩ := Path.walk_ancestor? disk.current.reverse hdir hname
    -- The spelled name is that of another ancestor for each `..` behind it.
    have habove : ancestorName place levels =
        ancestorName (walk dir disk.current.reverse).reverse (2 * upsBehind path levels) := by
      rw [ancestorName, h.reverse_eq_walk, hdrop, ancestorName, List.reverse_reverse]
    rw [hparent, hspelled, habove]
    constructor
    · intro heq dir' name' hdir' hname'
      obtain rfl : dir = dir' := Option.some.inj (hdir.symm.trans hdir')
      obtain rfl : name = name' := Option.some.inj (hname.symm.trans hname')
      exact heq.symm
    · intro htells
      exact (htells dir name hdir hname).symm

/-- The value of a variable for the directory so many levels above a file, which is reached without
a link, is the name of that directory just when the spelling of the path tells it, and the spelling
does where no `..` stands behind the name. Spellings of one place that tell it give the same
value. -/
theorem value_parent_right_iff {setting : Setting} {s : Subject}
    (hcurrent : ∀ name ∈ setting.disk.current, IsFileName name)
    (h : setting.disk.Reaches s.path place) (search : Pattern) (facts : Facts) (levels : Nat) :
    ((Variable.parent levels none).value setting search s facts = ancestorName place levels ↔
        setting.disk.TellsAbove s.path levels) ∧
      (upsBehind s.path levels = 0 → setting.disk.TellsAbove s.path levels) ∧
      ∀ (other : Subject) (t : Option Transform), setting.disk.Reaches other.path place →
        setting.disk.TellsAbove s.path levels → setting.disk.TellsAbove other.path levels →
          (Variable.parent levels t).value setting search other facts =
            (Variable.parent levels t).value setting search s facts := by
  have hright := parentName_eq_ancestorName_iff hcurrent h levels
  refine ⟨hright, tellsAbove_of_upsBehind_eq_zero, ?_⟩
  intro other t hother htells htells'
  have hother' := parentName_eq_ancestorName_iff hcurrent hother levels
  simp only [Variable.value]
  -- Both spellings give the name of the one directory above.
  rw [hright.mpr htells, hother'.mpr htells']

def homeDisk : Disk :=
  ⟨.directory (.cons "home".toList (.directory (.cons "work".toList (.directory
    (.cons "a".toList (.directory .nil (.at 0)) (.cons "b.txt".toList (.file .empty (.at 0)) .nil))
    (.at 0)) .nil) (.at 0)) .nil) (.at 0), ["home".toList, "work".toList]⟩

private theorem homeDisk_reaches : homeDisk.Reaches "a/../b.txt".toList
    ["home".toList, "work".toList, "b.txt".toList] where
  nonempty := by decide
  leads := by
    refine .through rfl rfl (by simp) ?_
    refine .through rfl rfl (by simp) ?_
    refine .through rfl rfl (by simp) ?_
    exact .here

private theorem homeDisk_current : ∀ name ∈ homeDisk.current, IsFileName name := by
  simp [homeDisk, IsFileName]

def homeSetting : Setting := { Setting.bare with disk := homeDisk }

def homeSubject : Subject := ⟨"b.txt".toList, "b.txt".toList, "a/../b.txt".toList, false⟩

theorem value_parent_right_iff_home :
    (∀ name ∈ homeDisk.current, IsFileName name) ∧
      homeDisk.Reaches homeSubject.path ["home".toList, "work".toList, "b.txt".toList] ∧
      (Variable.parent 1 none).value homeSetting .wholeText homeSubject .none = "work".toList := by
  -- The spelling shows no name for the directory of the file, and its place tells it.
  have htells : homeDisk.TellsAbove "a/../b.txt".toList 1 := by
    intro dir name hdir hname
    obtain rfl : "a/..".toList = dir := Option.some.inj hdir
    cases hname
  obtain ⟨hright, -⟩ := @value_parent_right_iff _ homeSetting homeSubject homeDisk_current
    homeDisk_reaches .wholeText .none 1
  exact ⟨homeDisk_current, homeDisk_reaches, hright.mpr htells⟩

/-- One level further up the spelling shows the directory beside the file, which is none of those
above it. -/
theorem not_all_parents_right :
    ¬ ∀ (setting : Setting) (search : Pattern) (s : Subject) (facts : Facts) (place : List Text)
        (levels : Nat), (∀ name ∈ setting.disk.current, IsFileName name) →
      setting.disk.Reaches s.path place → 1 ≤ levels →
        (Variable.parent levels none).value setting search s facts = ancestorName place levels := by
  intro hall
  have hhome := hall homeSetting .wholeText homeSubject .none _ 2 homeDisk_current homeDisk_reaches
    (by simp)
  have hspelled : (Variable.parent 2 none).value homeSetting .wholeText homeSubject .none =
      "a".toList := rfl
  have hplace : ancestorName ["home".toList, "work".toList, "b.txt".toList] 2 = "home".toList := rfl
  rw [hspelled, hplace] at hhome
  exact absurd hhome (by decide)

end Relabel
