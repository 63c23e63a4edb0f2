import Relabel.Proofs.Text.Pieces
import Relabel.Proofs.Text.Runs
import Relabel.Template.Spelling

/-!
# Forms of indexes

The parts of an index follow each other without a separator. What tells them apart is the character
that a part begins with, which no run of digits or white space in front of it can hold, so the
reader of indexes gives back just the form that is spelled: `IndexForm.read?_eq_some_iff`.
-/

namespace Relabel

open Text

/-- Digits of any script, at least one of them. -/
def IsNumeral (text : Text) : Prop := text ≠ [] ∧ isDigits text = true

instance (text : Text) : Decidable (IsNumeral text) := by
  unfold IsNumeral
  infer_instance

theorem isDecimalDigit_of_mem (h : isDigits text = true) (hc : c ∈ text) :
    isDecimalDigit c = true :=
  List.all_eq_true.mp h c hc

theorem not_mem_of_isDigits (h : isDigits text = true) (hc : isDecimalDigit c = false) :
    c ∉ text := fun hmem => by
  simp [isDecimalDigit_of_mem h hmem] at hc

-- ---------------------------------------------------------------------------
-- Numbers to skip
-- ---------------------------------------------------------------------------

namespace SkipForm

/-- White space and one number or two. -/
structure WellFormed (f : SkipForm) : Prop where
  blanks : f.blanks.all isBlank
  first : IsNumeral f.first
  second : ∀ digits ∈ f.second, IsNumeral digits

def ListWellFormed (entries : List SkipForm) : Prop :=
  (∀ entry ∈ entries, entry.WellFormed) ∧ ∀ entry ∈ entries.head?, entry.blanks = []

theorem stops_isBlank_of_isNumeral (h : IsNumeral digits) (rest : Text) :
    Stops isBlank (digits ++ rest) := by
  obtain ⟨d, ds, rfl⟩ := List.exists_cons_of_ne_nil h.1
  exact stops_cons (isBlank_eq_false_of_isDecimalDigit (isDecimalDigit_of_mem h.2 (by simp))) _

theorem read?_eq_some_iff {f : SkipForm} : read? text = some f ↔ f.WellFormed ∧ f.spelling = text := by
  constructor
  · intro h
    have hjoin := joinWith_pieces '-' (text.dropWhile isBlank)
    unfold read? at h
    split at h
    case h_1 first hpieces =>
      split at h
      case isFalse => cases h
      case isTrue hfirst =>
        obtain rfl := Option.some.inj h
        rw [hpieces] at hjoin
        refine ⟨⟨List.all_takeWhile, hfirst, by simp⟩, ?_⟩
        rw [spelling, List.append_nil]
        exact (eq_append_of_dropWhile hjoin.symm).symm
    case h_2 first second hpieces =>
      split at h
      case isFalse => cases h
      case isTrue hboth =>
        obtain rfl := Option.some.inj h
        rw [hpieces] at hjoin
        refine ⟨⟨List.all_takeWhile, ⟨hboth.1, hboth.2.1⟩, by simpa [IsNumeral] using hboth.2.2⟩, ?_⟩
        rw [spelling, List.append_assoc]
        exact (eq_append_of_dropWhile hjoin.symm).symm
    case h_3 => cases h
  · rintro ⟨⟨hblanks, hfirst, hsecond⟩, rfl⟩
    obtain ⟨blanks, first, second⟩ := f
    simp only at hblanks hfirst hsecond
    have hdash : '-' ∉ first := not_mem_of_isDigits hfirst.2 (by decide)
    cases second with
    | none =>
      have hstops := stops_isBlank_of_isNumeral hfirst []
      rw [List.append_nil] at hstops
      simp only [read?, spelling, List.append_nil, takeWhile_append_of_stops hblanks hstops,
        dropWhile_append_of_stops hblanks hstops, pieces_of_not_mem hdash]
      exact if_pos hfirst
    | some second =>
      have hstops := stops_isBlank_of_isNumeral hfirst ('-' :: second)
      have hsecond : IsNumeral second := by simpa using hsecond
      have hdash' : '-' ∉ second := not_mem_of_isDigits hsecond.2 (by decide)
      simp only [read?, spelling, List.append_assoc, takeWhile_append_of_stops hblanks hstops,
        dropWhile_append_of_stops hblanks hstops, pieces_append_separator hdash,
        pieces_of_not_mem hdash']
      exact if_pos ⟨hfirst.1, hfirst.2, hsecond⟩

private theorem mapM_read?_eq_some_iff {texts : List Text} {entries : List SkipForm} :
    texts.mapM read? = some entries ↔
      (∀ entry ∈ entries, entry.WellFormed) ∧ entries.map spelling = texts := by
  induction texts generalizing entries with
  | nil =>
    rw [List.mapM_nil]
    constructor
    · intro h
      obtain rfl := Option.some.inj h
      simp
    · rintro ⟨-, h⟩
      rw [List.map_eq_nil_iff.mp h]
      rfl
  | cons text texts ih =>
    rw [List.mapM_cons]
    constructor
    · intro h
      obtain ⟨entry, hentry, h⟩ := Option.bind_eq_some_iff.mp h
      obtain ⟨rest, hrest, h⟩ := Option.bind_eq_some_iff.mp h
      obtain rfl := Option.some.inj h
      obtain ⟨hwell, rfl⟩ := read?_eq_some_iff.mp hentry
      obtain ⟨hwells, rfl⟩ := ih.mp hrest
      exact ⟨List.forall_mem_cons.mpr ⟨hwell, hwells⟩, rfl⟩
    · rintro ⟨hwell, h⟩
      obtain ⟨entry, rest, rfl, rfl, rfl⟩ := List.map_eq_cons_iff.mp h
      obtain ⟨hentry, hrest⟩ := List.forall_mem_cons.mp hwell
      have hread := read?_eq_some_iff.mpr ⟨hentry, rfl⟩
      have hreads := ih.mpr ⟨hrest, rfl⟩
      simp [hread, hreads]

theorem not_mem_spelling {f : SkipForm} (h : f.WellFormed) (hblank : isBlank c = false)
    (hdigit : isDecimalDigit c = false) (hdash : c ≠ '-') : c ∉ f.spelling := by
  obtain ⟨blanks, first, second⟩ := f
  have hblanks : c ∉ blanks := fun hmem => by
    simp [List.all_eq_true.mp h.blanks c hmem] at hblank
  have hfirst : c ∉ first := not_mem_of_isDigits h.first.2 hdigit
  cases second with
  | none => simp [spelling, hblanks, hfirst]
  | some second =>
    have hsecond : c ∉ second := not_mem_of_isDigits (h.second second rfl).2 hdigit
    simp [spelling, hblanks, hfirst, hdash, hsecond]

private theorem readAll?_eq_some_iff {entries : List SkipForm} : readAll? text = some entries ↔
    entries ≠ [] ∧ ListWellFormed entries ∧ joinWith ';' (entries.map spelling) = text := by
  constructor
  · intro h
    obtain ⟨found, hfound, h⟩ := Option.bind_eq_some_iff.mp h
    obtain ⟨hwell, hspelling⟩ := mapM_read?_eq_some_iff.mp hfound
    split at h
    case h_2 => cases h
    case h_1 first rest =>
      split at h
      case isFalse => cases h
      case isTrue hfront =>
        obtain rfl := Option.some.inj h
        exact ⟨by simp, ⟨hwell, by simpa using hfront⟩, by rw [hspelling, joinWith_pieces]⟩
  · rintro ⟨hne, ⟨hwell, hfront⟩, rfl⟩
    have hpieces : pieces ';' (joinWith ';' (entries.map spelling)) = entries.map spelling := by
      refine pieces_joinWith (by simpa using hne) fun name hname => ?_
      obtain ⟨entry, hentry, rfl⟩ := List.mem_map.mp hname
      exact not_mem_spelling (hwell entry hentry) (by decide) (by decide) (by decide)
    have hread := mapM_read?_eq_some_iff.mpr ⟨hwell, rfl⟩
    obtain ⟨first, rest, rfl⟩ := List.exists_cons_of_ne_nil hne
    have hfront : first.blanks = [] := hfront first rfl
    rw [readAll?, hpieces, hread]
    exact if_pos hfront

def listSpelling : List SkipForm → Text
  | [] => []
  | entries => '<' :: joinWith ';' (entries.map spelling) ++ ['>']

private theorem readList?_eq_some_iff {entries : List SkipForm} : readList? text = some entries ↔
    ListWellFormed entries ∧ listSpelling entries = text := by
  constructor
  · intro h
    unfold readList? at h
    split at h
    case h_1 =>
      obtain rfl := Option.some.inj h
      exact ⟨⟨by simp, by simp⟩, rfl⟩
    case h_2 rest =>
      split at h
      case isFalse => cases h
      case isTrue hlast =>
        obtain ⟨hne, hwell, hspelling⟩ := readAll?_eq_some_iff.mp h
        refine ⟨hwell, ?_⟩
        obtain ⟨first, others, rfl⟩ := List.exists_cons_of_ne_nil hne
        rw [listSpelling, hspelling, List.cons_append, List.dropLast_append_getLast? '>' hlast]
        exact hne
    case h_3 => cases h
  · rintro ⟨hwell, rfl⟩
    cases entries with
    | nil => rfl
    | cons first others =>
      have hread := readAll?_eq_some_iff.mpr ⟨List.cons_ne_nil first others, hwell, rfl⟩
      rw [listSpelling, List.cons_append, readList?, if_pos (by simp), List.dropLast_concat, hread]
      exact List.cons_ne_nil first others

end SkipForm

-- ---------------------------------------------------------------------------
-- The whole index
-- ---------------------------------------------------------------------------

namespace IndexForm

/-- All parts are digits; a group takes the digits behind it, so that no start is left. -/
structure WellFormed (f : IndexForm) : Prop where
  group : ∀ digits ∈ f.group, IsNumeral digits ∧ f.start = []
  start : isDigits f.start
  width : isDigits f.width
  step : isDigits f.step
  skip : SkipForm.ListWellFormed f.skip

private theorem readSystem_append (system : NumberSystem) (h : ∀ c ∈ rest.head?, c ∉ "bohr".toList) :
    readSystem (system.label ++ rest) = (system, rest) := by
  cases system with
  | decimal =>
    show readSystem rest = _
    unfold readSystem
    split
    all_goals first | rfl | exact absurd (h _ rfl) (by decide)
  | _ => rfl

private theorem eq_label_append (text : Text) : text = (readSystem text).1.label ++ (readSystem text).2 := by
  unfold readSystem
  split <;> rfl

theorem readFront?_append {group : Option Text} {start : Text}
    (hgroup : ∀ digits ∈ group, IsNumeral digits ∧ start = []) (hstart : isDigits start = true)
    (behind : Text) :
    readFront? (spellGroup group ++ start ++ '%' :: behind) = some (group, start, '%' :: behind) := by
  have hstops : Stops isDecimalDigit ('%' :: behind) := stops_cons (by decide) behind
  cases group with
  | some digits =>
    obtain ⟨hdigits, rfl⟩ := hgroup digits rfl
    have htake := takeWhile_append_of_stops hdigits.2 hstops
    have hdrop := dropWhile_append_of_stops hdigits.2 hstops
    obtain ⟨d, ds, rfl⟩ := List.exists_cons_of_ne_nil hdigits.1
    rw [spellGroup, List.append_nil, List.cons_append, readFront?, htake, hdrop]
  | none =>
    rw [spellGroup, List.nil_append]
    unfold readFront?
    split
    case h_1 rest hdollar =>
      -- A start begins with a digit and not with a dollar sign.
      have hmem : '$' ∉ start := not_mem_of_isDigits hstart (by decide)
      cases start with
      | nil => simp at hdollar
      | cons d ds => exact absurd (List.cons.inj hdollar).1 (Ne.symm (List.ne_of_not_mem_cons hmem))
    case h_2 =>
      rw [takeWhile_append_of_stops hstart hstops, dropWhile_append_of_stops hstart hstops]

theorem exists_of_readFront? {group : Option Text} {start rest : Text}
    (h : readFront? text = some (group, start, rest)) :
    (∀ digits ∈ group, IsNumeral digits ∧ start = []) ∧ isDigits start = true ∧
      text = spellGroup group ++ start ++ rest := by
  unfold readFront? at h
  split at h
  case h_1 behind =>
    split at h
    case h_1 => cases h
    case h_2 hne =>
      obtain ⟨rfl, rfl, rfl⟩ : _ ∧ _ ∧ _ := by simpa using h
      refine ⟨?_, rfl, ?_⟩
      · rintro digits ⟨⟩
        exact ⟨⟨hne, List.all_takeWhile⟩, rfl⟩
      · rw [spellGroup, List.append_nil, List.cons_append, List.takeWhile_append_dropWhile]
  case h_2 =>
    obtain ⟨rfl, rfl, rfl⟩ : _ ∧ _ ∧ _ := by simpa using h
    exact ⟨by simp, List.all_takeWhile, List.takeWhile_append_dropWhile.symm⟩

theorem spelling_eq (f : IndexForm) : f.spelling =
    spellGroup f.group ++ f.start ++ '%' :: (f.width ++ 'd' :: (f.system.label ++
      (f.step ++ SkipForm.listSpelling f.skip))) := by
  obtain ⟨group, start, width, system, step, skip⟩ := f
  cases skip <;> simp [spelling, SkipForm.listSpelling]

theorem stops_listSpelling (entries : List SkipForm) :
    Stops isDecimalDigit (SkipForm.listSpelling entries) := by
  cases entries with
  | nil => simp [SkipForm.listSpelling, Stops]
  | cons first others => exact stops_cons (by decide) _

theorem letter_not_mem_head? {step : Text} (hstep : isDigits step = true) (entries : List SkipForm) :
    ∀ c ∈ (step ++ SkipForm.listSpelling entries).head?, c ∉ "bohr".toList := by
  have hletters : "bohr".toList.all (!isDecimalDigit ·) = true := by decide
  intro c hc hletter
  cases step with
  | cons d ds =>
    obtain rfl : d = c := by simpa using hc
    have hdigit := isDecimalDigit_of_mem hstep (List.mem_cons_self (a := d))
    have hletter := List.all_eq_true.mp hletters d hletter
    simp [hdigit] at hletter
  | nil =>
    cases entries with
    | nil => simp [SkipForm.listSpelling] at hc
    | cons first others =>
      obtain rfl : '<' = c := by simpa [SkipForm.listSpelling] using hc
      exact absurd hletter (by decide)

theorem read?_eq_some_iff {f : IndexForm} :
    read? body = some f ↔ f.WellFormed ∧ f.spelling = body := by
  constructor
  · intro h
    obtain ⟨⟨group, start, rest⟩, hfront, h⟩ := Option.bind_eq_some_iff.mp h
    obtain ⟨behindPercent, hpercent, h⟩ := Option.bind_eq_some_iff.mp h
    obtain ⟨behindD, hd, h⟩ := Option.bind_eq_some_iff.mp h
    rcases hsystem : readSystem behindD with ⟨system, behindSystem⟩
    rw [hsystem] at h
    obtain ⟨skip, hskip, h⟩ := Option.bind_eq_some_iff.mp h
    obtain rfl := Option.some.inj h
    obtain ⟨hgroup, hstart, rfl⟩ := exists_of_readFront? hfront
    obtain ⟨hwell, hlist⟩ := SkipForm.readList?_eq_some_iff.mp hskip
    refine ⟨⟨hgroup, hstart, List.all_takeWhile, List.all_takeWhile, hwell⟩, ?_⟩
    -- Put together again from the back to the front.
    have hlabel := eq_label_append behindD
    rw [hsystem] at hlabel
    have hwidth := eq_append_of_dropWhile (eq_append_of_after? hd)
    simp only [spelling_eq, hlist, List.takeWhile_append_dropWhile, ← hlabel,
      eq_append_of_after? hpercent]
    rw [List.singleton_append, List.append_right_inj, List.cons.injEq]
    exact ⟨rfl, hwidth.symm⟩
  · rintro ⟨⟨hgroup, hstart, hwidth, hstep, hskip⟩, rfl⟩
    obtain ⟨group, start, width, system, step, skip⟩ := f
    simp only at hgroup hstart hwidth hstep hskip
    have hstops := stops_listSpelling skip
    have hsystem := readSystem_append system (letter_not_mem_head? hstep skip)
    have hread := SkipForm.readList?_eq_some_iff.mpr ⟨hskip, rfl⟩
    have hd : Stops isDecimalDigit ('d' :: (system.label ++ (step ++ SkipForm.listSpelling skip))) :=
      stops_cons (by decide) _
    rw [spelling_eq, read?, readFront?_append hgroup hstart]
    simp [after?, takeWhile_append_of_stops hwidth hd, dropWhile_append_of_stops hwidth hd, hsystem,
      takeWhile_append_of_stops hstep hstops, dropWhile_append_of_stops hstep hstops, hread]

end IndexForm

end Relabel
