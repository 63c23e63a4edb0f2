import Relabel.Path.Basic
import Relabel.Proofs.Text.Pieces

/-!
# Components of a path

The components of a path are the root or the current directory that it starts from and the pieces
of it that mean something. A file name taken from a base directory adds one component to those of
the base.
-/

namespace Relabel.Path

open Text (pieces)

def leading : Text → List Component
  | '/' :: _ => [.root]
  | ['.'] => [.current]
  | '.' :: '/' :: _ => [.current]
  | _ => []

/-- The pieces of the path that mean something. -/
def named (path : Text) : List Component :=
  ((pieces '/' path).filter fun piece => !isIdle piece).map pieceComponent

theorem components_eq (path : Text) : components path = leading path ++ named path := by
  unfold leading
  split
  case h_1 rest => simp [components, parts, named, pieces, isIdle]
  case h_2 => rfl
  case h_3 rest => simp [components, parts, named, pieces, isIdle]
  case h_4 hroot hdot hslash =>
    have hparts : parts path = ([], pieces '/' path) := by
      unfold parts
      split <;> simp_all
    rw [components, hparts]
    rfl

private theorem named_append (front rest : Text) :
    named (front ++ '/' :: rest) = named front ++ named rest := by
  simp [named, Text.pieces_append]

private theorem leading_append (hfront : front ≠ []) (rest : Text) :
    leading (front ++ '/' :: rest) = leading front := by
  fun_cases leading front
  case case1 tail => rfl
  case case2 => rfl
  case case3 tail => rfl
  case case4 hroot hdot hslash =>
    obtain ⟨c, cs, rfl⟩ := List.exists_cons_of_ne_nil hfront
    cases cs with
    | nil => simp_all [leading]
    | cons d ds => simp_all [leading]

theorem components_append (hfront : front ≠ []) (rest : Text) :
    components (front ++ '/' :: rest) = components front ++ named rest := by
  rw [components_eq, components_eq, leading_append hfront, named_append, List.append_assoc]

-- ---------------------------------------------------------------------------
-- A file in a directory
-- ---------------------------------------------------------------------------

def IsFileName (name : Text) : Prop :=
  name ≠ [] ∧ name ≠ ['.'] ∧ name ≠ ['.', '.'] ∧ '/' ∉ name

theorem IsFileName.named_eq (h : IsFileName name) : named name = [.name name] := by
  obtain ⟨hnil, hdot, hup, hslash⟩ := h
  simp [named, Text.pieces_of_not_mem hslash, isIdle, pieceComponent, hnil, hdot, hup]

theorem IsFileName.leading_eq (h : IsFileName name) : leading name = [] := by
  obtain ⟨-, hdot, -, hslash⟩ := h
  unfold leading
  split <;> simp_all

theorem IsFileName.not_isRooted (h : IsFileName name) : isRooted name = false := by
  cases name with
  | nil => rfl
  | cons c cs => simpa [isRooted] using Ne.symm (List.ne_of_not_mem_cons h.2.2.2)

theorem components_join (base : Text) (h : IsFileName name) :
    components (join base name) = components base ++ [.name name] := by
  rw [join, h.not_isRooted, ← h.named_eq]
  simp only [Bool.false_eq_true, ↓reduceIte]
  by_cases hbase : base = []
  · rw [if_pos (.inl hbase), hbase, List.nil_append, components_eq, h.leading_eq]
    rfl
  by_cases hlast : base.getLast? = some '/'
  · obtain ⟨front, rfl⟩ := List.getLast?_eq_some_iff.mp hlast
    rw [if_pos (.inr hlast), List.append_assoc, List.singleton_append]
    cases front with
    | nil => simp [components_eq, leading, named, pieces, isIdle]
    | cons c cs =>
      have hne : c :: cs ≠ [] := List.cons_ne_nil c cs
      rw [components_append hne, components_append hne]
      simp [named, pieces, isIdle]
  · rw [if_neg (by simp [hbase, hlast]), components_append hbase]

-- ---------------------------------------------------------------------------
-- The directory of a file
-- ---------------------------------------------------------------------------

private theorem named_joinWith {names : List Text} (h : ∀ name ∈ names, '/' ∉ name) :
    named (Text.joinWith '/' names) =
      (names.filter fun piece => !isIdle piece).map pieceComponent := by
  by_cases hne : names = []
  · simp [hne, Text.joinWith, named, pieces, isIdle]
  · rw [named, Text.pieces_joinWith hne h]

private theorem isIdle_last_trimPieces (ps : List Text) :
    ∀ last ∈ (trimPieces ps).getLast?, isIdle last = false := by
  intro last hlast
  rw [trimPieces, List.getLast?_reverse] at hlast
  have hhead := List.head?_dropWhile_not isIdle ps.reverse
  rw [Option.mem_def.mp hlast] at hhead
  simpa using hhead

private theorem filter_trimPieces (ps : List Text) :
    (trimPieces ps).filter (fun piece => !isIdle piece) = ps.filter fun piece => !isIdle piece := by
  obtain ⟨idle, hidle, hps⟩ : ∃ idle : List Text, (∀ piece ∈ idle, isIdle piece = true) ∧
      ps = trimPieces ps ++ idle := by
    refine ⟨(ps.reverse.takeWhile isIdle).reverse, fun piece hpiece => ?_, ?_⟩
    · exact List.all_eq_true.mp List.all_takeWhile piece (List.mem_reverse.mp hpiece)
    · rw [trimPieces, ← List.reverse_append, List.takeWhile_append_dropWhile, List.reverse_reverse]
  have hnone : idle.filter (fun piece => !isIdle piece) = [] :=
    List.filter_eq_nil_iff.mpr fun piece hpiece => by simp [hidle piece hpiece]
  conv_rhs => rw [hps, List.filter_append, hnone, List.append_nil]

private theorem trimPieces_isPrefix (ps : List Text) : trimPieces ps <+: ps := by
  rw [trimPieces, ← List.reverse_suffix, List.reverse_reverse]
  exact List.dropWhile_suffix _

private theorem leading_joinWith {names : List Text} (hnil : name ≠ []) (hdot : name ≠ ['.'])
    (hslash : '/' ∉ name) : leading (Text.joinWith '/' (name :: names)) = [] := by
  have hname : leading name = [] := by
    unfold leading
    split <;> simp_all
  cases names with
  | nil => exact hname
  | cons next others =>
    rw [Text.joinWith_cons (List.cons_ne_nil _ _), leading_append hnil, hname]

/-- The first pieces of a path, without those at their end that mean nothing, make up a path that
starts where the whole one does. -/
theorem components_of_isPrefix {names : List Text} (h : parts path = (lead, ps))
    (hfront : names <+: ps) : components (lead ++ Text.joinWith '/' (trimPieces names)) =
      leading path ++ (names.filter fun piece => !isIdle piece).map pieceComponent := by
  have htrimmed := (trimPieces_isPrefix names).trans hfront
  rw [← filter_trimPieces]
  unfold parts at h
  split at h
  case h_1 rest =>
    obtain ⟨rfl, rfl⟩ := Prod.mk.inj h
    have hslash : ∀ name ∈ trimPieces names, '/' ∉ name := fun name hname =>
      Text.not_mem_of_mem_pieces (htrimmed.subset hname)
    rw [List.singleton_append, components_eq, ← List.nil_append ('/' :: _), named_append,
      named_joinWith hslash]
    simp [leading, named, pieces, isIdle]
  case h_2 =>
    obtain ⟨rfl, rfl⟩ := Prod.mk.inj h
    obtain rfl := List.prefix_nil.mp hfront
    rfl
  case h_3 rest =>
    obtain ⟨rfl, rfl⟩ := Prod.mk.inj h
    -- What stands between the dot and the first slash is an empty piece.
    cases hnames : trimPieces names with
    | nil => rfl
    | cons first others =>
      rw [hnames] at htrimmed
      obtain ⟨rfl, hothers⟩ := List.cons_prefix_cons.mp htrimmed
      have hne : others ≠ [] := by
        rintro rfl
        have hidle := isIdle_last_trimPieces names [] (by simp [hnames])
        simp [isIdle] at hidle
      have hslash : ∀ name ∈ others, '/' ∉ name := fun name hname =>
        Text.not_mem_of_mem_pieces (hothers.subset hname)
      rw [Text.joinWith_cons hne, List.nil_append, components_eq, named_append,
        named_joinWith hslash]
      simp [leading, named, pieces, isIdle]
  case h_4 hroot hdot hslashed =>
    obtain ⟨rfl, rfl⟩ := Prod.mk.inj h
    have hleading : leading path = [] := by
      unfold leading
      split <;> simp_all
    have hslash : ∀ name ∈ trimPieces names, '/' ∉ name := fun name hname =>
      Text.not_mem_of_mem_pieces (htrimmed.subset hname)
    rw [List.nil_append, components_eq, named_joinWith hslash, hleading]
    suffices hlead : leading (Text.joinWith '/' (trimPieces names)) = [] by rw [hlead]
    cases hnames : trimPieces names with
    | nil => rfl
    | cons first others =>
      rw [hnames] at htrimmed hslash
      obtain ⟨more, hmore⟩ := htrimmed
      have hpath := Text.joinWith_pieces '/' path
      rw [← hmore, List.cons_append] at hpath
      by_cases hmore : others ++ more = []
      · obtain ⟨rfl, rfl⟩ := List.append_eq_nil_iff.mp hmore
        have hidle := isIdle_last_trimPieces names first (by simp [hnames])
        refine leading_joinWith ?_ ?_ (hslash first (by simp))
        all_goals rintro rfl; simp [isIdle] at hidle
      · rw [Text.joinWith_cons hmore] at hpath
        refine leading_joinWith ?_ ?_ (hslash first (by simp))
        · rintro rfl
          exact hroot _ hpath.symm
        · rintro rfl
          exact hslashed _ hpath.symm

theorem components_of_parts (h : parts path = (lead, ps)) : components path =
    leading path ++ (ps.filter fun piece => !isIdle piece).map pieceComponent := by
  rw [components, h]
  unfold parts at h
  split at h <;> obtain ⟨rfl, rfl⟩ := Prod.mk.inj h
  case h_4 hroot hdot hslashed =>
    have hleading : leading path = [] := by
      unfold leading
      split <;> simp_all
    rw [hleading]
  all_goals rfl

theorem components_parent? (h : parent? path = some dir) :
    components dir = (components path).dropLast := by
  obtain ⟨⟨lead, ps⟩, hparts⟩ : ∃ made, parts path = made := ⟨_, rfl⟩
  rw [components_of_parts hparts, ← filter_trimPieces]
  simp only [parent?, hparts] at h
  split at h
  case h_1 hnil =>
    split at h
    case isFalse => simp at h
    case isTrue hdot =>
      obtain rfl := Option.some.inj h
      have hleading : (leading path).dropLast = [] := by unfold leading; split <;> rfl
      rw [hnil, List.filter_nil, List.map_nil, List.append_nil, hleading]
      rfl
  case h_2 hne =>
    obtain rfl := Option.some.inj h
    obtain ⟨front, last, htrimmed⟩ : ∃ front last, trimPieces ps = front ++ [last] :=
      ⟨_, _, (List.dropLast_append_getLast hne).symm⟩
    have hlast := isIdle_last_trimPieces ps last (by simp [htrimmed])
    have hfront : front <+: ps := (List.prefix_append front [last]).trans
      (htrimmed ▸ trimPieces_isPrefix ps)
    rw [htrimmed, List.dropLast_concat, components_of_isPrefix hparts hfront]
    simp [hlast, ← List.append_assoc]

theorem exists_parent? (h : components path = front ++ [.name text]) :
    ∃ dir, parent? path = some dir := by
  obtain ⟨⟨lead, ps⟩, hparts⟩ : ∃ made, parts path = made := ⟨_, rfl⟩
  simp only [parent?, hparts]
  split
  case h_2 => exact ⟨_, rfl⟩
  case h_1 hnil =>
    -- Without a piece that means anything there is at most the root or the current directory.
    have hnone : Component.name text ∉ leading path := by unfold leading; split <;> simp
    have hmem : Component.name text ∈ leading path := by
      rw [components_of_parts hparts, ← filter_trimPieces, hnil] at h
      simp only [List.filter_nil, List.map_nil, List.append_nil] at h
      simp [h]
    exact absurd hmem hnone

-- ---------------------------------------------------------------------------
-- A path from the root
-- ---------------------------------------------------------------------------

theorem filter_of_isFileName {place : List Text} (h : ∀ name ∈ place, IsFileName name) :
    (place.filter fun piece => !isIdle piece) = place := by
  refine List.filter_eq_self.mpr fun name hname => ?_
  obtain ⟨hnil, hdot, -, -⟩ := h name hname
  simp [isIdle, hnil, hdot]

theorem components_canonical {place : List Text} (h : ∀ name ∈ place, IsFileName name) :
    components ('/' :: Text.joinWith '/' place) = .root :: place.map .name := by
  have hslash : ∀ name ∈ place, '/' ∉ name := fun name hname => (h name hname).2.2.2
  have hname : place.map pieceComponent = place.map .name := by
    refine List.map_congr_left fun name hname => ?_
    simp [pieceComponent, (h name hname).2.2.1]
  rw [components_eq, ← List.nil_append ('/' :: _), named_append,
    named_joinWith hslash, filter_of_isFileName h, hname]
  rfl

theorem pieceComponent_injective : Function.Injective pieceComponent := by
  intro piece other h
  unfold pieceComponent at h
  split at h <;> split at h
  case isTrue.isTrue hpiece hother => rw [hpiece, hother]
  case isFalse.isFalse => exact Component.name.inj h
  all_goals cases h

theorem isRooted_iff {path : Text} : isRooted path = true ↔ leading path = [.root] := by
  fun_cases leading path
  case case1 rest => simp [isRooted]
  case case2 => simp [isRooted]
  case case3 rest => simp [isRooted]
  case case4 hroot hdot hslash =>
    cases path with
    | nil => simp [isRooted]
    | cons c cs =>
      have hc : c ≠ '/' := fun hc => hroot cs (by rw [hc])
      simpa [isRooted] using hc

theorem leading_and_pieces (other : Text)
    (h : components path = leading other ++ ps.map pieceComponent) :
    leading path = leading other ∧ ((pieces '/' path).filter fun piece => !isIdle piece) = ps := by
  have hleading (path : Text) :
      leading path = [] ∨ leading path = [.root] ∨ leading path = [.current] := by
    unfold leading
    split <;> simp
  have hpieces (ps : List Text) :
      .root ∉ ps.map pieceComponent ∧ .current ∉ ps.map pieceComponent := by
    have hpiece (piece : Text) : pieceComponent piece ≠ .root ∧ pieceComponent piece ≠ .current := by
      unfold pieceComponent
      split <;> simp
    simp [hpiece]
  have hnamed : .root ∉ named path ∧ .current ∉ named path := hpieces _
  have hmap (h : named path = ps.map pieceComponent) :
      ((pieces '/' path).filter fun piece => !isIdle piece) = ps :=
    List.map_injective_iff.mpr pieceComponent_injective h
  rw [components_eq] at h
  -- What the one path starts from is no piece of the other.
  rcases hleading path with hpath | hpath | hpath <;>
    rcases hleading other with hother | hother | hother <;>
    rw [hpath, hother] at h ⊢ <;> simp only [List.nil_append, List.singleton_append] at h
  · exact ⟨rfl, hmap h⟩
  · exact absurd (h ▸ List.mem_cons_self) hnamed.1
  · exact absurd (h ▸ List.mem_cons_self) hnamed.2
  · exact absurd (h ▸ List.mem_cons_self) (hpieces ps).1
  · exact ⟨rfl, hmap (List.cons.inj h).2⟩
  · cases (List.cons.inj h).1
  · exact absurd (h ▸ List.mem_cons_self) (hpieces ps).2
  · cases (List.cons.inj h).1
  · exact ⟨rfl, hmap (List.cons.inj h).2⟩

/-- A path with the components of a place spells its names, with pieces between them that mean
nothing. -/
theorem pieces_of_components (hplace : ∀ name ∈ place, IsFileName name)
    (h : components path = .root :: place.map .name) :
    isRooted path = true ∧ ((pieces '/' path).filter fun piece => !isIdle piece) = place ∧
      ['.', '.'] ∉ pieces '/' path := by
  have hname : place.map pieceComponent = place.map .name := by
    refine List.map_congr_left fun name hname => ?_
    simp [pieceComponent, (hplace name hname).2.2.1]
  obtain ⟨hleading, hpieces⟩ := leading_and_pieces ['/'] (h.trans (by rw [hname]; rfl))
  refine ⟨isRooted_iff.mpr hleading, hpieces, fun hup => ?_⟩
  have hmem : ['.', '.'] ∈ place := hpieces ▸ List.mem_filter.mpr ⟨hup, rfl⟩
  exact (hplace _ hmem).2.2.1 rfl

theorem parent?_of_pieces (h : pieces '/' path = front ++ [name]) (hidle : isIdle name = false)
    (hup : name ≠ ['.', '.']) :
    ∃ dir, parent? path = some dir ∧ isRooted dir = isRooted path ∧
      ((pieces '/' dir).filter fun piece => !isIdle piece) =
        front.filter fun piece => !isIdle piece := by
  have hcomponents : components path = leading path ++
      (front.filter fun piece => !isIdle piece).map pieceComponent ++ [.name name] := by
    have hlast : pieceComponent name = .name name := if_neg hup
    simp [components_eq, named, h, hidle, hlast]
  obtain ⟨dir, hdir⟩ := exists_parent? hcomponents
  have hleft := components_parent? hdir
  rw [hcomponents, List.dropLast_concat] at hleft
  obtain ⟨hleading, hpieces⟩ := leading_and_pieces path hleft
  refine ⟨dir, hdir, ?_, hpieces⟩
  rw [Bool.eq_iff_iff, isRooted_iff, isRooted_iff, hleading]

end Relabel.Path
