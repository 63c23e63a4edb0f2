import Mathlib.Data.List.Chain
import Relabel.Path.Clean
import Relabel.Proofs.Text.Pieces

/-!
# The paths that cleaning leaves alone

The names of a clean path mean something, and `..` follows nothing but `..`. Cleaning brings every
path into this form and leaves the paths in it as they are (`clean_eq_self_iff`). White space may
stand at both ends of such a path; `isClean_trim_iff` says when its removal keeps the path clean.
-/

namespace Relabel.Path

open Text (pieces joinWith)

abbrev UpsFirst (names : List Text) : Prop :=
  names.IsChain fun before name => name = ['.', '.'] → before = ['.', '.']

/-- None of the names is idle, and `..` follows nothing but `..`, at the root not even that. -/
structure Normal (rooted : Bool) (names : List Text) : Prop where
  meaningful : ∀ name ∈ names, isIdle name = false
  upsFirst : UpsFirst names
  belowRoot : rooted = true → ['.', '.'] ∉ names

variable {rooted : Bool}

theorem Normal.of_append (h : Normal rooted (front ++ back)) : Normal rooted front where
  meaningful := fun name hname => h.meaningful name (List.mem_append_left back hname)
  upsFirst := h.upsFirst.left_of_append
  belowRoot := fun hr hup => h.belowRoot hr (List.mem_append_left back hup)

theorem normal_concat (h : Normal rooted names) (hidle : isIdle name = false)
    (hup : name = ['.', '.'] → rooted = false ∧ ∀ last ∈ names.getLast?, last = ['.', '.']) :
    Normal rooted (names ++ [name]) where
  meaningful := by
    intro n hn
    rcases List.mem_append.mp hn with hn | hn
    · exact h.meaningful n hn
    · exact List.mem_singleton.mp hn ▸ hidle
  upsFirst := by
    refine List.isChain_append.mpr ⟨h.upsFirst, List.isChain_singleton _, ?_⟩
    intro before hbefore n hn hname
    obtain rfl : name = n := by simpa using hn
    exact (hup hname).2 before hbefore
  belowRoot := by
    intro hr hmem
    rcases List.mem_append.mp hmem with hmem | hmem
    · exact h.belowRoot hr hmem
    · have hrooted := (hup (List.mem_singleton.mp hmem).symm).1
      simp [hr] at hrooted

private theorem normal_of_forall_eq_up (h : ∀ name ∈ names, name = ['.', '.']) : Normal false names where
  meaningful := fun name hname => by simp [h name hname, isIdle]
  upsFirst := by
    induction names with
    | nil => exact List.isChain_nil
    | cons name names ih =>
      obtain ⟨hname, hnames⟩ := List.forall_mem_cons.mp h
      exact List.isChain_cons.mpr ⟨fun _ _ _ => hname, ih hnames⟩
  belowRoot := by simp

theorem normal_pushPiece {names : List Text} (h : Normal rooted names.reverse) (piece : Text) :
    Normal rooted (pushPiece rooted names piece).reverse := by
  unfold pushPiece
  split
  case isTrue => exact h
  case isFalse hidle =>
    have hidle : isIdle piece = false := by simpa using hidle
    split
    case isFalse hup =>
      rw [List.reverse_cons]
      exact normal_concat h hidle fun heq => absurd heq hup
    case isTrue hup =>
      cases names with
      | nil =>
        cases rooted
        · exact normal_concat h hidle fun _ => ⟨rfl, by simp⟩
        · exact h
      | cons top rest =>
        -- A `..` takes the name on top away, unless that is a `..` that has stayed itself.
        have hrest : Normal rooted rest.reverse := Normal.of_append (List.reverse_cons ▸ h)
        by_cases htop : top = ['.', '.']
        · cases rooted
          · simp only [htop, ne_eq, not_true_eq_false, ↓reduceIte, Bool.false_eq_true]
            rw [List.reverse_cons]
            exact normal_concat (htop ▸ h) hidle fun _ => ⟨rfl, by simp⟩
          · subst htop
            simpa using h
        · simpa [htop] using hrest

theorem normal_foldl_pushPiece {names : List Text} (h : Normal rooted names.reverse)
    (ps : List Text) : Normal rooted (ps.foldl (pushPiece rooted) names).reverse := by
  induction ps generalizing names with
  | nil => exact h
  | cons piece ps ih => exact ih (normal_pushPiece h piece)

theorem normal_cleanNames (path : Text) : Normal (isRooted path) (cleanNames path) :=
  normal_foldl_pushPiece ⟨by simp, List.isChain_nil, by simp⟩ _

theorem mem_pushPiece {names : List Text} (h : name ∈ pushPiece rooted names piece) :
    name = piece ∨ name ∈ names := by
  unfold pushPiece at h
  repeat' split at h
  all_goals simp_all

theorem mem_foldl_pushPiece {names ps : List Text}
    (h : name ∈ ps.foldl (pushPiece rooted) names) : name ∈ names ∨ name ∈ ps := by
  induction ps generalizing names with
  | nil => exact .inl h
  | cons piece ps ih =>
    rcases ih h with hmem | hmem
    · rcases mem_pushPiece hmem with rfl | hmem
      · exact .inr List.mem_cons_self
      · exact .inl hmem
    · exact .inr (List.mem_cons_of_mem _ hmem)

theorem not_mem_of_mem_cleanNames (h : name ∈ cleanNames path) : '/' ∉ name := by
  rcases mem_foldl_pushPiece (List.mem_reverse.mp h) with hmem | hmem
  · exact absurd hmem List.not_mem_nil
  · exact Text.not_mem_of_mem_pieces hmem

theorem foldl_pushPiece_of_normal {names ps : List Text} (h : Normal rooted (names.reverse ++ ps)) :
    ps.foldl (pushPiece rooted) names = ps.reverse ++ names := by
  induction ps generalizing names with
  | nil => rfl
  | cons piece ps ih =>
    have hpiece : piece ∈ names.reverse ++ piece :: ps := by simp
    have hpush : pushPiece rooted names piece = piece :: names := by
      unfold pushPiece
      rw [if_neg (by simp [h.meaningful piece hpiece])]
      split
      case isFalse => rfl
      case isTrue hup =>
        -- Below the root there is no `..`, and elsewhere one follows upon nothing but its like.
        have hrooted : rooted = false := by
          cases rooted
          · rfl
          · exact absurd (hup ▸ hpiece) (h.belowRoot rfl)
        cases names with
        | nil => simp [hrooted]
        | cons top rest =>
          have htop : top = ['.', '.'] :=
            (List.isChain_append.mp h.upsFirst).2.2 top (by simp) piece (by simp) hup
          simp [htop, hrooted]
    rw [List.foldl_cons, hpush, ih (by simpa using h), List.reverse_cons, List.append_assoc]
    rfl

-- ---------------------------------------------------------------------------
-- Clean paths
-- ---------------------------------------------------------------------------

/-- The root, the current directory, or normal names behind at most one slash. -/
def IsClean : Text → Prop
  | '/' :: rest => rest = [] ∨ Normal true (pieces '/' rest)
  | path => path = ['.'] ∨ Normal false (pieces '/' path)

theorem isClean_root : IsClean ('/' :: rest) ↔ rest = [] ∨ Normal true (pieces '/' rest) := .rfl

private theorem exists_eq_slash_cons (h : isRooted path = true) : ∃ rest, path = '/' :: rest := by
  cases path with
  | nil => simp [isRooted] at h
  | cons c cs => exact ⟨cs, by simpa [isRooted] using h⟩

private theorem isClean_of_not_isRooted (h : isRooted path = false) :
    IsClean path ↔ path = ['.'] ∨ Normal false (pieces '/' path) := by
  unfold IsClean
  split
  · simp [isRooted] at h
  · exact .rfl

theorem isRooted_joinWith (hidle : ∀ name ∈ names, isIdle name = false)
    (hslash : ∀ name ∈ names, '/' ∉ name) : isRooted (joinWith '/' names) = false := by
  cases names with
  | nil => rfl
  | cons name rest =>
    have hname := hidle name (by simp)
    have hnot := hslash name (by simp)
    cases name with
    | nil => simp [isIdle] at hname
    | cons c cs =>
      have hc : c ≠ '/' := fun h => hnot (by simp [h])
      cases rest <;> simp [joinWith, isRooted, hc]

theorem joinWith_ne_nil (hne : names ≠ []) (hidle : ∀ name ∈ names, isIdle name = false) :
    joinWith '/' names ≠ [] := by
  cases names with
  | nil => exact absurd rfl hne
  | cons name rest =>
    have hname := hidle name (by simp)
    have hnil : name ≠ [] := fun h => by simp [h, isIdle] at hname
    cases rest <;> simp [joinWith, hnil]

theorem isClean_clean (path : Text) : IsClean (clean path) := by
  have hnormal := normal_cleanNames path
  have hslash : ∀ name ∈ cleanNames path, '/' ∉ name := fun _ => not_mem_of_mem_cleanNames
  unfold clean
  by_cases hnames : cleanNames path = []
  · cases isRooted path <;> simp [hnames, joinWith, IsClean]
  · have hpieces := Text.pieces_joinWith hnames hslash
    cases hr : isRooted path
    · rw [hr] at hnormal
      simp only [Bool.false_eq_true, ↓reduceIte, joinWith_ne_nil hnames hnormal.meaningful]
      rw [isClean_of_not_isRooted (isRooted_joinWith hnormal.meaningful hslash), hpieces]
      exact .inr hnormal
    · rw [hr] at hnormal
      simp only [↓reduceIte]
      rw [isClean_root, hpieces]
      exact .inr hnormal

theorem clean_of_isClean (h : IsClean path) : clean path = path := by
  cases hr : isRooted path with
  | true =>
    obtain ⟨rest, rfl⟩ := exists_eq_slash_cons hr
    -- The empty piece in front of the root's slash means nothing.
    have hnames : cleanNames ('/' :: rest) = ((pieces '/' rest).foldl (pushPiece true) []).reverse := by
      simp [cleanNames, hr, pieces, pushPiece, isIdle]
    rw [clean, hr, hnames]
    rcases isClean_root.mp h with rfl | h
    · rfl
    · rw [foldl_pushPiece_of_normal (by simpa using h), List.append_nil, List.reverse_reverse,
        Text.joinWith_pieces]
      rfl
  | false =>
    rcases (isClean_of_not_isRooted hr).mp h with rfl | h
    · rfl
    · have hnames : cleanNames path = pieces '/' path := by
        rw [cleanNames, hr, foldl_pushPiece_of_normal (by simpa using h), List.append_nil,
          List.reverse_reverse]
      have hne : joinWith '/' (pieces '/' path) ≠ [] :=
        joinWith_ne_nil (Text.pieces_ne_nil '/' path) h.meaningful
      rw [clean, hr, hnames]
      simp only [Bool.false_eq_true, ↓reduceIte, hne]
      exact Text.joinWith_pieces '/' path

/-- Cleaning leaves alone just what it brings forth. -/
theorem clean_eq_self_iff : clean path = path ↔ IsClean path :=
  ⟨fun h => h ▸ isClean_clean path, clean_of_isClean⟩

-- ---------------------------------------------------------------------------
-- Clean paths without the white space at their ends
-- ---------------------------------------------------------------------------

private theorem eq_up_of_last {names : List Text} (h : UpsFirst names)
    (hlast : names.getLast? = some ['.', '.']) : ∀ name ∈ names, name = ['.', '.'] := by
  induction names with
  | nil => simp
  | cons name names ih =>
    cases names with
    | nil => simpa using hlast
    | cons next others =>
      have hrest := ih h.tail (by simpa using hlast)
      have hname : name = ['.', '.'] := (List.isChain_cons_cons.mp h).1 (hrest next (by simp))
      exact List.forall_mem_cons.mpr ⟨hname, hrest⟩

theorem up_not_mem_tail {names : List Text} (h : UpsFirst (name :: names))
    (hname : name ≠ ['.', '.']) : ['.', '.'] ∉ names := by
  induction names generalizing name with
  | nil => simp
  | cons next others ih =>
    obtain ⟨hnext, hothers⟩ := List.isChain_cons_cons.mp h
    have hne : next ≠ ['.', '.'] := fun heq => hname (hnext heq)
    simp [Ne.symm hne, ih hothers hne]

/-- The first component is no dot, and the last one is neither empty nor a dot nor, unless all
are, a `..`. The root and the current directory have nothing at their ends. -/
def EndsIntact (path : Text) : Prop :=
  path = ['/'] ∨ path = ['.'] ∨
    (pieces '/' path).head? ≠ some ['.'] ∧ (pieces '/' path).getLast? ≠ some [] ∧
      (pieces '/' path).getLast? ≠ some ['.'] ∧
      ((pieces '/' path).getLast? = some ['.', '.'] → ∀ name ∈ pieces '/' path, name = ['.', '.'])

instance (path : Text) : Decidable (EndsIntact path) := by
  unfold EndsIntact
  infer_instance

theorem Normal.endsIntact (h : Normal false (pieces '/' path)) : EndsIntact path := by
  have hmem {name : Text} (hname : name ∈ pieces '/' path) (heq : name = [] ∨ name = ['.']) :
      False := by
    have hidle := h.meaningful name hname
    rcases heq with rfl | rfl <;> simp [isIdle] at hidle
  refine .inr (.inr ⟨?_, ?_, ?_, eq_up_of_last h.upsFirst⟩)
  · exact fun heq => hmem (List.mem_of_mem_head? heq) (.inr rfl)
  · exact fun heq => hmem (List.mem_of_mem_getLast? heq) (.inl rfl)
  · exact fun heq => hmem (List.mem_of_mem_getLast? heq) (.inr rfl)

theorem IsClean.endsIntact (h : IsClean path) : EndsIntact path := by
  cases hr : isRooted path with
  | false =>
    rcases (isClean_of_not_isRooted hr).mp h with h | h
    · exact .inr (.inl h)
    · exact h.endsIntact
  | true =>
    obtain ⟨rest, rfl⟩ := exists_eq_slash_cons hr
    rcases isClean_root.mp h with rfl | h
    · exact .inl rfl
    · have hpieces : pieces '/' ('/' :: rest) = [] :: pieces '/' rest := by simp [pieces]
      obtain ⟨names, last, hlast⟩ := Text.exists_pieces_eq_concat '/' rest
      have hmem : last ∈ pieces '/' rest := by simp [hlast]
      have hidle := h.meaningful last hmem
      have hup : last ≠ ['.', '.'] := fun heq => h.belowRoot rfl (heq ▸ hmem)
      -- Below the root the first component is empty, and no `..` is left for the last.
      refine .inr (.inr ?_)
      rw [hpieces, hlast, ← List.cons_append, List.getLast?_concat]
      refine ⟨by simp, ?_, ?_, fun heq => absurd (Option.some.inj heq) hup⟩
      · rintro ⟨⟩
        simp [isIdle] at hidle
      · rintro ⟨⟩
        simp [isIdle] at hidle

theorem isRooted_of_pieces (h : pieces '/' path = [] :: name :: names) : isRooted path = true := by
  cases path with
  | nil => simp [pieces] at h
  | cons c cs =>
    by_cases hc : c = '/'
    · simp [isRooted, hc]
    · obtain ⟨p, ps, hp⟩ := List.exists_cons_of_ne_nil (Text.pieces_ne_nil '/' cs)
      rw [Text.pieces_cons_of_ne hc hp] at h
      simp at h

theorem Normal.of_cons (h : Normal false (name :: names)) (hname : name ≠ ['.', '.']) :
    Normal true names where
  meaningful := fun n hn => h.meaningful n (List.mem_cons_of_mem _ hn)
  upsFirst := h.upsFirst.tail
  belowRoot := fun _ => up_not_mem_tail h.upsFirst hname

private theorem slash_not_mem_of_blanks {blanks : Text} (h : ∀ c ∈ blanks, isBlank c) : '/' ∉ blanks :=
  fun hmem => absurd (h '/' hmem) (by decide)

private theorem eq_nil_of_blanks_append {blanks : Text} (h : ∀ c ∈ blanks, isBlank c) (hc : isBlank c = false)
    (heq : blanks ++ name = c :: rest) : blanks = [] := by
  cases blanks with
  | nil => rfl
  | cons d ds =>
    have hd := h d (by simp)
    rw [(List.cons.inj heq).1, hc] at hd
    exact absurd hd Bool.false_ne_true

section
variable {front back : Text}

private theorem isClean_of_endsIntact_root (hfront : ∀ c ∈ front, isBlank c) (hback : ∀ c ∈ back, isBlank c)
    (h : IsClean (front ++ '/' :: (rest ++ back))) (hends : EndsIntact ('/' :: rest)) :
    IsClean ('/' :: rest) := by
  obtain ⟨names, last, hlast⟩ := Text.exists_pieces_eq_concat '/' rest
  have hpieces : pieces '/' ('/' :: rest) = [] :: names ++ [last] := by simp [pieces, hlast]
  rcases hends with hends | hends | ⟨-, hnil, hdot, hup⟩
  · exact .inl (List.cons.inj hends).2
  · simp at hends
  rw [hpieces, List.getLast?_concat] at hnil hdot hup
  have hlastUp : last ≠ ['.', '.'] := by
    rintro rfl
    exact absurd (hup rfl [] (by simp)) (by simp)
  -- Whatever stands in front of the slash, the names behind it are normal below the root.
  have hwhole : Normal true (names ++ [last ++ back]) := by
    have hrest := Text.pieces_extend (slash_not_mem_of_blanks hback) hlast
    cases front with
    | nil =>
      rcases isClean_root.mp h with hempty | hnormal
      · rw [(List.append_eq_nil_iff.mp hempty).1] at hlast
        exact absurd (by simpa [pieces] using (congrArg List.getLast? hlast).symm) hnil
      · exact hrest ▸ hnormal
    | cons c cs =>
      have hc := hfront c (by simp)
      have hslash : c ≠ '/' := fun heq => absurd (heq ▸ hc) (by decide)
      have hup : c :: cs ≠ ['.', '.'] := fun heq =>
        absurd (eq_nil_of_blanks_append hfront (by decide) ((List.append_nil _).trans heq)) (by simp)
      rcases (isClean_of_not_isRooted (by simp [isRooted, hslash])).mp h with hdotted | hnormal
      · simp at hdotted
      · rw [Text.pieces_append_separator (slash_not_mem_of_blanks hfront), hrest] at hnormal
        exact hnormal.of_cons hup
  refine .inr ?_
  rw [hlast]
  refine normal_concat hwhole.of_append ?_ fun heq => absurd heq hlastUp
  simp_all [isIdle]

theorem isClean_of_endsIntact (hfront : ∀ c ∈ front, isBlank c) (hback : ∀ c ∈ back, isBlank c)
    (hr : isRooted path = false) (h : IsClean (front ++ (path ++ back))) (hends : EndsIntact path) :
    IsClean path := by
  rw [isClean_of_not_isRooted hr]
  rcases hends with rfl | hends | ⟨hhead, hnil, hdot, hup⟩
  · simp [isRooted] at hr
  · exact .inl hends
  refine .inr ?_
  obtain ⟨names, last, hlast⟩ := Text.exists_pieces_eq_concat '/' path
  rw [hlast, List.getLast?_concat] at hnil hdot hup
  rw [hlast] at hhead ⊢
  have hidle : isIdle last = false := by simp_all [isIdle]
  -- White space goes to the first and the last name, so the names between them are those of the
  -- clean path, and only the two ends have to be looked at.
  cases names with
  | nil => exact ⟨by simpa using hidle, List.isChain_singleton _, by simp⟩
  | cons first middle =>
    have hfirst : first ≠ [] := by
      rintro rfl
      cases middle <;> exact absurd (isRooted_of_pieces hlast) (by simp [hr])
    have hpieces := Text.pieces_prepend (slash_not_mem_of_blanks hfront)
      (Text.pieces_extend (slash_not_mem_of_blanks hback) hlast)
    have hunrooted : isRooted (front ++ (path ++ back)) = false := by
      cases front with
      | nil => cases path <;> simp_all [isRooted, pieces]
      | cons c cs =>
        have hc : c ≠ '/' := fun heq => slash_not_mem_of_blanks hfront (by simp [heq])
        simp [isRooted, hc]
    have hwhole : Normal false (pieces '/' (front ++ (path ++ back))) := by
      rcases (isClean_of_not_isRooted hunrooted).mp h with hdotted | hnormal
      · rw [hdotted] at hpieces
        simp [pieces] at hpieces
      · exact hnormal
    rw [hpieces] at hwhole
    by_cases hlastUp : last = ['.', '.']
    · exact normal_of_forall_eq_up (hlast ▸ hup (congrArg some hlastUp))
    refine normal_concat ⟨?_, ?_, by simp⟩ hidle fun heq => absurd heq hlastUp
    · have hmiddle := (List.forall_mem_cons.mp hwhole.of_append.meaningful).2
      refine List.forall_mem_cons.mpr ⟨?_, hmiddle⟩
      simp_all [isIdle]
    · obtain ⟨hnext, hmiddle⟩ := List.isChain_cons.mp hwhole.of_append.upsFirst
      refine List.isChain_cons.mpr ⟨fun next hmem heq => ?_, hmiddle⟩
      -- A `..` behind the first name was behind a `..`, which has no white space to lose.
      have hfirstUp := hnext next hmem heq
      rwa [eq_nil_of_blanks_append hfront (by decide) hfirstUp] at hfirstUp

end

/-- A clean path stays clean without its outer white space just when that leaves its ends
intact. -/
theorem isClean_trim_iff (h : IsClean path) : IsClean path.trim ↔ EndsIntact path.trim := by
  refine ⟨IsClean.endsIntact, fun hends => ?_⟩
  obtain ⟨front, back, hfront, hback, heq⟩ := Text.exists_blanks_around path
  rw [heq, List.append_assoc] at h
  cases hr : isRooted path.trim with
  | true =>
    obtain ⟨rest, hrest⟩ := exists_eq_slash_cons hr
    rw [hrest] at h hends ⊢
    exact isClean_of_endsIntact_root hfront hback h hends
  | false => exact isClean_of_endsIntact hfront hback hr h hends

end Relabel.Path
