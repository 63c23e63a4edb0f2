import Relabel.Proofs.Path.Clean
import Relabel.Proofs.Path.Components

/-!
# Where a path leads

A path leads from one place in a directory tree to another one, without a look at the disk: a name
goes down, and `..` goes up as long as there is something above. Cleaning keeps where a path leads
from every place, and it gives one spelling to all paths that lead alike (`clean_canonical`).
-/

namespace Relabel.Path

open Text (pieces joinWith)

/-- Where one piece of a path leads. A place is given by the names of the directories that lead
to it from the root, the last one first. -/
def enter (place : List Text) (piece : Text) : List Text :=
  if isIdle piece then place
  else if piece = ['.', '.'] then place.tail
  else piece :: place

def walk (path : Text) (place : List Text) : List Text :=
  (pieces '/' path).foldl enter (if isRooted path then [] else place)

variable {rooted : Bool} {place : List Text}

theorem enter_of_idle (h : isIdle piece = true) : enter place piece = place := by
  simp [enter, h]

theorem enter_up : enter place ['.', '.'] = place.tail := by
  simp [enter, isIdle]

theorem enter_name (hidle : isIdle piece = false) (hup : piece ≠ ['.', '.']) :
    enter place piece = piece :: place := by
  simp [enter, hidle, hup]

-- ---------------------------------------------------------------------------
-- Cleaning leads to the same place
-- ---------------------------------------------------------------------------

/-- A piece that is put on the stack of names does to a place, behind those names, what it does by
itself. Below the root the place is the root, so that a `..` with no name before it can be left
out. -/
theorem foldl_enter_pushPiece {names : List Text} (h : Normal rooted names.reverse)
    (hroot : rooted = true → place = []) (piece : Text) :
    (pushPiece rooted names piece).reverse.foldl enter place =
      enter (names.reverse.foldl enter place) piece := by
  unfold pushPiece
  split
  case isTrue hidle => rw [enter_of_idle hidle]
  case isFalse hidle =>
    split
    case isFalse hup => simp [List.foldl_append]
    case isTrue hup =>
      subst hup
      rw [enter_up]
      cases names with
      | nil =>
        cases rooted
        · simp [enter_up]
        · simp [hroot rfl]
      | cons top rest =>
        have htop : isIdle top = false := h.meaningful top (by simp)
        by_cases htopUp : top = ['.', '.']
        · subst htopUp
          have hrooted : rooted = false := by
            cases rooted
            · rfl
            · exact absurd (by simp) (h.belowRoot rfl)
          simp [hrooted, List.foldl_append, enter_up]
        · simp [htopUp, List.foldl_append, enter_name htop htopUp]

theorem foldl_enter_foldl_pushPiece {names : List Text} (h : Normal rooted names.reverse)
    (hroot : rooted = true → place = []) (ps : List Text) :
    (ps.foldl (pushPiece rooted) names).reverse.foldl enter place =
      ps.foldl enter (names.reverse.foldl enter place) := by
  induction ps generalizing names with
  | nil => rfl
  | cons piece ps ih =>
    rw [List.foldl_cons, List.foldl_cons, ih (normal_pushPiece h piece),
      foldl_enter_pushPiece h hroot]

theorem foldl_enter_cleanNames (path : Text) {place : List Text} (hroot : isRooted path = true → place = []) :
    (cleanNames path).foldl enter place = (pieces '/' path).foldl enter place :=
  foldl_enter_foldl_pushPiece ⟨by simp, List.isChain_nil, by simp⟩ hroot _

theorem foldl_enter_pieces_joinWith {names : List Text} (h : ∀ name ∈ names, '/' ∉ name) :
    (pieces '/' (joinWith '/' names)).foldl enter place = names.foldl enter place := by
  by_cases hne : names = []
  · simp [hne, joinWith, pieces, enter_of_idle, isIdle]
  · rw [Text.pieces_joinWith hne h]

theorem isRooted_clean (path : Text) : isRooted (clean path) = isRooted path := by
  have hslash : ∀ name ∈ cleanNames path, '/' ∉ name := fun _ => not_mem_of_mem_cleanNames
  have hjoined := isRooted_joinWith (normal_cleanNames path).meaningful hslash
  unfold clean
  cases hr : isRooted path
  · simp only [Bool.false_eq_true, ↓reduceIte]
    split
    · rfl
    · exact hjoined
  · rfl

theorem walk_clean (path : Text) (place : List Text) :
    walk (clean path) place = walk path place := by
  have hslash : ∀ name ∈ cleanNames path, '/' ∉ name := fun _ => not_mem_of_mem_cleanNames
  rw [walk, walk, isRooted_clean]
  cases hr : isRooted path
  · have hnames : (cleanNames path).foldl enter place = (pieces '/' path).foldl enter place :=
      foldl_enter_cleanNames path (by simp [hr])
    simp only [Bool.false_eq_true, ↓reduceIte]
    rw [← hnames, ← foldl_enter_pieces_joinWith hslash, clean, hr]
    simp only [Bool.false_eq_true, ↓reduceIte]
    -- A dot is written for no names at all, and it leads nowhere else either.
    split
    case isTrue hnil => rw [hnil]; rfl
    case isFalse => rfl
  · have hnames : (cleanNames path).foldl enter [] = (pieces '/' path).foldl enter [] :=
      foldl_enter_cleanNames path fun _ => rfl
    rw [if_pos rfl, ← hnames, ← foldl_enter_pieces_joinWith hslash, clean, hr]
    simp [pieces, enter_of_idle, isIdle]

-- ---------------------------------------------------------------------------
-- Paths that lead alike are cleaned alike
-- ---------------------------------------------------------------------------

private theorem exists_ups_append {names : List Text} (h : UpsFirst names) :
    ∃ levels proper, names = List.replicate levels ['.', '.'] ++ proper ∧ ['.', '.'] ∉ proper := by
  induction names with
  | nil => exact ⟨0, [], rfl, List.not_mem_nil⟩
  | cons name names ih =>
    by_cases hname : name = ['.', '.']
    · obtain ⟨levels, proper, rfl, hproper⟩ := ih h.tail
      exact ⟨levels + 1, proper, by rw [hname, List.replicate_succ, List.cons_append], hproper⟩
    · have hproper : ['.', '.'] ∉ name :: names := by
        simp [Ne.symm hname, up_not_mem_tail h hname]
      exact ⟨0, name :: names, rfl, hproper⟩

private theorem foldl_enter_proper {names : List Text} (hidle : ∀ name ∈ names, isIdle name = false)
    (hup : ['.', '.'] ∉ names) : names.foldl enter place = names.reverse ++ place := by
  induction names generalizing place with
  | nil => rfl
  | cons name names ih =>
    obtain ⟨hname, hnames⟩ := List.forall_mem_cons.mp hidle
    rw [List.foldl_cons, enter_name hname (Ne.symm (List.ne_of_not_mem_cons hup)),
      ih hnames (List.not_mem_of_not_mem_cons hup), List.reverse_cons, List.append_assoc,
      List.singleton_append]

private theorem foldl_enter_ups (levels : Nat) :
    (List.replicate levels ['.', '.']).foldl enter place = place.drop levels := by
  induction levels generalizing place with
  | zero => rfl
  | succ levels ih => rw [List.replicate_succ, List.foldl_cons, enter_up, ih, List.drop_tail]

/-- From the root all names are seen, and from a place deep enough also how far up `..` leads. -/
theorem Normal.eq_of_foldl_enter_eq {names others : List Text} (hnames : Normal false names)
    (hothers : Normal false others)
    (h : ∀ place : List Text, (∀ name ∈ place, IsFileName name) →
      names.foldl enter place = others.foldl enter place) : names = others := by
  obtain ⟨levels, proper, rfl, hproper⟩ := exists_ups_append hnames.upsFirst
  obtain ⟨levels', proper', rfl, hproper'⟩ := exists_ups_append hothers.upsFirst
  have hidle : ∀ name ∈ proper, isIdle name = false := fun name hname =>
    hnames.meaningful name (List.mem_append_right _ hname)
  have hidle' : ∀ name ∈ proper', isIdle name = false := fun name hname =>
    hothers.meaningful name (List.mem_append_right _ hname)
  simp only [List.foldl_append, foldl_enter_ups, foldl_enter_proper hidle hproper,
    foldl_enter_proper hidle' hproper'] at h
  have hroot := h [] (by simp)
  obtain rfl : proper = proper' := by simpa using hroot
  have hdeep := h (List.replicate (levels + levels') ['a']) fun name hname => by
    rw [List.eq_of_mem_replicate hname]
    simp [IsFileName]
  have hlevels : levels = levels' := by
    have hlength := congrArg List.length hdeep
    simp only [List.length_append, List.length_reverse, List.length_drop,
      List.length_replicate] at hlength
    omega
  rw [hlevels]

theorem cleanNames_eq_of_walk_eq (hrooted : isRooted p = isRooted q)
    (h : ∀ place : List Text, (∀ name ∈ place, IsFileName name) → walk p place = walk q place) :
    cleanNames p = cleanNames q := by
  have hp := normal_cleanNames p
  have hq := normal_cleanNames q
  simp only [walk] at h
  rw [← hrooted] at hq h
  cases hr : isRooted p with
  | false =>
    rw [hr] at hp hq
    refine hp.eq_of_foldl_enter_eq hq fun place hplace => ?_
    rw [foldl_enter_cleanNames p (by simp [hr]), foldl_enter_cleanNames q (by simp [← hrooted, hr])]
    simpa [hr] using h place hplace
  | true =>
    -- Below the root there are proper names only, and the root alone shows them all.
    have hroot := h [] (by simp)
    rw [if_pos hr, ← foldl_enter_cleanNames p (by simp), ← foldl_enter_cleanNames q (by simp),
      foldl_enter_proper hp.meaningful (hp.belowRoot hr),
      foldl_enter_proper hq.meaningful (hq.belowRoot hr)] at hroot
    simpa using hroot

/-- Cleaning keeps whether a path is rooted and where it leads from every place. Two paths are
cleaned alike just when both or neither are rooted and they lead alike from every place below the
root. So cleaning again changes nothing, and what is left has no empty and no dotted component,
and `..` neither behind a name nor below the root. -/
theorem clean_canonical (p q : Text) :
    (isRooted (clean p) = isRooted p ∧ ∀ place, walk (clean p) place = walk p place) ∧
      (clean p = clean q ↔ isRooted p = isRooted q ∧
        ∀ place : List Text, (∀ name ∈ place, IsFileName name) → walk p place = walk q place) ∧
      clean (clean p) = clean p ∧ IsClean (clean p) := by
  refine ⟨⟨isRooted_clean p, walk_clean p⟩, ⟨fun h => ⟨?_, fun place _ => ?_⟩, ?_⟩,
    clean_of_isClean (isClean_clean p), isClean_clean p⟩
  · rw [← isRooted_clean p, h, isRooted_clean]
  · rw [← walk_clean p, h, walk_clean]
  · rintro ⟨hrooted, hwalk⟩
    rw [clean, clean, hrooted, cleanNames_eq_of_walk_eq hrooted hwalk]

end Relabel.Path
