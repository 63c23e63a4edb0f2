import Mathlib.Data.List.DropRight
import Relabel.Proofs.Path.Walk

/-!
# The directories above a path

An ancestor of a path is what is left of it without its last components. Where none of these leads
up, it leads to the directory that stands so many levels above the place of the path. A `..` among
them is left out like a name, but it goes up itself, so for each one that directory stands two
levels further up (`walk_ancestor?`).
-/

namespace Relabel.Path

/-- Where one component of a path leads. -/
def enterComponent (place : List Text) : Component → List Text
  | .root => []
  | .current => place
  | .parent => place.tail
  | .name text => text :: place

variable {place : List Text}

theorem enterComponent_pieceComponent (h : isIdle piece = false) :
    enterComponent place (pieceComponent piece) = enter place piece := by
  unfold pieceComponent
  split
  case isTrue hup => simp [hup, enterComponent, enter_up]
  case isFalse hup => simp [enterComponent, enter_name h hup]

private theorem foldl_enterComponent_named (path : Text) :
    (named path).foldl enterComponent place = (Text.pieces '/' path).foldl enter place := by
  unfold named
  generalize Text.pieces '/' path = ps
  induction ps generalizing place with
  | nil => rfl
  | cons piece ps ih =>
    cases hidle : isIdle piece
    · simpa [hidle, enterComponent_pieceComponent hidle] using ih
    · simpa [hidle, enter_of_idle hidle] using ih

private theorem foldl_enterComponent_leading (path : Text) :
    (leading path).foldl enterComponent place = if isRooted path then [] else place := by
  fun_cases leading path
  case case1 rest => rfl
  case case2 => rfl
  case case3 rest => rfl
  case case4 hroot hdot hslash =>
    have hunrooted : isRooted path = false := by
      cases path with
      | nil => rfl
      | cons c cs =>
        have hc : c ≠ '/' := fun hc => hroot cs (by rw [hc])
        simpa [isRooted] using hc
    simp [hunrooted]

theorem walk_eq_foldl_components (path : Text) (place : List Text) :
    walk path place = (components path).foldl enterComponent place := by
  rw [components_eq, List.foldl_append, foldl_enterComponent_leading, foldl_enterComponent_named,
    walk]

theorem isFileName_of_mem_enter {name piece : Text} (hplace : ∀ name ∈ place, IsFileName name)
    (hslash : '/' ∉ piece) (hname : name ∈ enter place piece) : IsFileName name := by
  unfold enter at hname
  split at hname
  case isTrue => exact hplace name hname
  case isFalse hidle =>
    split at hname
    case isTrue => exact hplace name (List.mem_of_mem_tail hname)
    case isFalse hup =>
      rcases List.mem_cons.mp hname with rfl | hname
      · simp only [isIdle, Bool.or_eq_true, beq_iff_eq, not_or] at hidle
        exact ⟨hidle.1, hidle.2, hup, hslash⟩
      · exact hplace name hname

theorem isFileName_of_mem_foldl_enter {name : Text} {ps : List Text}
    (hplace : ∀ name ∈ place, IsFileName name) (hslash : ∀ piece ∈ ps, '/' ∉ piece)
    (hname : name ∈ ps.foldl enter place) : IsFileName name := by
  induction ps generalizing place with
  | nil => exact hplace name hname
  | cons piece ps ih =>
    obtain ⟨hpiece, hps⟩ := List.forall_mem_cons.mp hslash
    exact ih (fun _ => isFileName_of_mem_enter hplace hpiece) hps hname

theorem isFileName_of_mem_walk {path name : Text} (hplace : ∀ name ∈ place, IsFileName name)
    (hname : name ∈ walk path place) : IsFileName name := by
  refine isFileName_of_mem_foldl_enter ?_ (fun _ => Text.not_mem_of_mem_pieces) hname
  split
  · simp
  · exact hplace

-- ---------------------------------------------------------------------------
-- What the spelling leaves out
-- ---------------------------------------------------------------------------

theorem components_ancestor? (h : ancestor? path levels = some dir) :
    components dir = (components path).rdrop levels := by
  induction levels generalizing path with
  | zero => simp_all [ancestor?]
  | succ levels ih =>
    obtain ⟨parent, hparent, hdir⟩ := Option.bind_eq_some_iff.mp h
    rw [ih hdir, components_parent? hparent, List.dropLast_eq_take, ← List.rdrop, List.rdrop_add,
      Nat.add_comm]

theorem exists_ancestor? {names : List Text} (h : components path = front ++ names.map .name) :
    ∃ dir, ancestor? path names.length = some dir ∧ components dir = front := by
  induction names using List.reverseRecOn generalizing path with
  | nil => exact ⟨path, rfl, by simpa using h⟩
  | append_singleton names last ih =>
    rw [List.map_append, List.map_singleton, ← List.append_assoc] at h
    obtain ⟨parent, hparent⟩ := exists_parent? h
    have hcomponents := components_parent? hparent
    rw [h, List.dropLast_concat] at hcomponents
    obtain ⟨dir, hdir, hfront⟩ := ih hcomponents
    exact ⟨dir, by simpa [ancestor?, hparent] using hdir, hfront⟩

theorem getLast?_of_fileName? (h : fileName? path = some name) :
    (components path).getLast? = some (.name name) := by
  unfold fileName? at h
  split at h
  case h_1 text hlast => rw [hlast, Option.some.inj h]
  case h_2 => cases h

def nameAbove? (path : Text) (levels : Nat) : Option Text := (ancestor? path levels).bind fileName?

def upsBehind (path : Text) (levels : Nat) : Nat := ((components path).rtake levels).count .parent

theorem up_or_name_of_components (h : components path = front ++ behind) (hfront : front ≠ []) :
    ∀ c ∈ behind, c = .parent ∨ ∃ text, c = .name text := by
  have hlead : (leading path).length ≤ 1 := by fun_cases leading path <;> simp
  have hnamed : behind ⊆ named path := by
    rw [components_eq] at h
    rcases List.append_eq_append_iff.mp h with ⟨more, -, hnamed⟩ | ⟨more, hleading, hbehind⟩
    · simp [hnamed]
    · obtain ⟨c, cs, rfl⟩ := List.exists_cons_of_ne_nil hfront
      obtain rfl : more = [] := by
        have hlength := congrArg List.length hleading
        simp only [List.length_append, List.length_cons] at hlength
        exact List.eq_nil_of_length_eq_zero (by omega)
      simp [hbehind]
  intro c hc
  obtain ⟨piece, -, rfl⟩ := List.mem_map.mp (hnamed hc)
  unfold pieceComponent
  split
  · exact .inl rfl
  · exact .inr ⟨piece, rfl⟩

/-- A name goes down one level and `..` goes up one, so that it is two levels above where as many
names would have led to. -/
theorem drop_foldl_enterComponent (place : List Text) {behind : List Component}
    (h : ∀ c ∈ behind, c = .parent ∨ ∃ text, c = .name text) :
    (behind.foldl enterComponent place).drop behind.length =
      place.drop (2 * behind.count .parent) := by
  induction behind using List.reverseRecOn with
  | nil => simp
  | append_singleton behind last ih =>
    have hbehind := ih fun c hc => h c (by simp [hc])
    rcases h last (by simp) with rfl | ⟨text, rfl⟩
    · have hup := congrArg (List.drop 2) hbehind
      simpa [enterComponent, List.count_append, Nat.mul_add] using hup
    · simpa [enterComponent, List.count_append] using hbehind

/-- The place of a path is so many levels below a directory that is two levels above the one where
the ancestor leads to, for each `..` behind it. -/
theorem walk_ancestor? (start : List Text) (hdir : ancestor? path levels = some dir)
    (hname : fileName? dir = some name) :
    (walk dir start).head? = some name ∧
      (walk path start).drop levels = (walk dir start).drop (2 * upsBehind path levels) := by
  have hlast := getLast?_of_fileName? hname
  constructor
  · obtain ⟨front, hfront⟩ := List.getLast?_eq_some_iff.mp hlast
    simp [walk_eq_foldl_components, hfront, enterComponent]
  · have hcomponents := components_ancestor? hdir
    have hne : components dir ≠ [] := by
      intro hnil
      simp [hnil] at hlast
    have hsplit : components path = components dir ++ (components path).rtake levels := by
      rw [hcomponents, List.rdrop, List.rtake, List.take_append_drop]
    have hlength : ((components path).rtake levels).length = levels := by
      rw [hcomponents, List.rdrop] at hne
      have hlevels : levels < (components path).length := by
        by_contra hlt
        exact hne (List.take_eq_nil_iff.mpr (.inl (by omega)))
      rw [List.rtake, List.length_drop]
      omega
    have hdrop := drop_foldl_enterComponent (walk dir start)
      (up_or_name_of_components hsplit hne)
    rw [hlength] at hdrop
    rw [upsBehind, ← hdrop, walk_eq_foldl_components path, hsplit, List.foldl_append,
      ← walk_eq_foldl_components, ← hsplit]

end Relabel.Path
