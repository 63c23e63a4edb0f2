import Relabel.Proofs.Pattern.Taking
import Relabel.Proofs.Template.Forms
import Relabel.Proofs.Template.Grammar

/-!
# What the grammar matches

The pattern of a kind spells just the forms of the kind, and where a form stands its preferred way
takes the form, with the parts of the form as its groups.
-/

namespace Relabel

open Text

namespace Grammar

-- ---------------------------------------------------------------------------
-- Words and numbers
-- ---------------------------------------------------------------------------

theorem spells_letters {word : Text} : (Expr.seqAll (letters word)).Spells text ↔ text = word :=
  Expr.spells_literal

theorem takes_letters (word back : Text) : Takes (Expr.seqAll (letters word)).ways word back [] :=
  .literal word back

theorem spells_around_dot {a b : Expr} :
    (Expr.seqAll ([a] ++ letters ['.'] ++ [b])).Spells text ↔
      ∃ front back, a.Spells front ∧ b.Spells back ∧ text = front ++ '.' :: back := by
  simp only [Expr.spells_seqAll_append, Expr.spells_seqAll_one, spells_letters]
  constructor
  · rintro ⟨-, back, ⟨front, -, hfront, rfl, rfl⟩, hback, rfl⟩
    exact ⟨front, back, hfront, hback, by simp⟩
  · rintro ⟨front, back, hfront, hback, rfl⟩
    exact ⟨_, back, ⟨front, _, hfront, rfl, rfl⟩, hback, by simp⟩

theorem takes_around_dot {a b : Expr} {front behind back : Text}
    {captured captured' : List (Nat × Text)}
    (ha : Takes a.ways front ('.' :: (behind ++ back)) captured)
    (hb : Takes b.ways behind back captured') :
    Takes (Expr.seqAll ([a] ++ letters ['.'] ++ [b])).ways (front ++ '.' :: behind) back
      (captured' ++ captured) := by
  have h := Takes.seqAll_cons ha (Takes.seqAll_concat (takes_letters ['.'] (behind ++ back)) hb)
  rwa [List.append_nil] at h

def isDelimiter (c : Char) : Bool := c == '.' || c == '}'

def Delimited (back : Text) : Prop := ∃ c rest, back = c :: rest ∧ isDelimiter c = true

structure Distinct (labels : List Text) : Prop where
  apart : labels.Pairwise fun a b => ¬a <+: b
  plain : labels.all (·.all (!isDelimiter ·)) = true

theorem stands_of_delimited {label word back : Text} (hplain : label.all (!isDelimiter ·) = true)
    (hback : Delimited back) (h : label <+: word ++ back) : label <+: word := by
  obtain ⟨c, rest, rfl, hc⟩ := hback
  rcases List.prefix_or_prefix_of_prefix h (List.prefix_append word (c :: rest)) with h | ⟨more, rfl⟩
  · exact h
  · cases more with
    | nil => simp
    | cons d more =>
      obtain ⟨rfl, -⟩ := List.cons_prefix_cons.mp ((List.prefix_append_right_inj word).mp h)
      have hd := List.all_eq_true.mp hplain d (by simp)
      simp [hc] at hd

theorem spells_words {labels : List Text} (hne : labels ≠ []) :
    (words labels).Spells text ↔ text ∈ labels := by
  rw [words, Expr.spells_altAll (by simpa using hne)]
  simp [word, spells_letters]

theorem ways_word_eq_nil {label : Text} {here : Cursor} (h : ¬label <+: here.rest) :
    (word label).ways here = [] :=
  Expr.ways_eq_nil fun _ htaken => spells_letters.mp htaken ▸ h

theorem takes_words {labels : List Text} (h : Distinct labels) {label back : Text}
    (hmem : label ∈ labels) (hback : Delimited back) : Takes (words labels).ways label back [] := by
  obtain ⟨earlier, later, rfl⟩ := List.append_of_mem hmem
  rw [words, List.map_append, List.map_cons]
  refine Takes.altAll (takes_letters label back) fun other hother here hrest => ?_
  obtain ⟨before, hbefore, rfl⟩ := List.mem_map.mp hother
  have hplain := List.all_eq_true.mp h.plain before (List.mem_append_left _ hbefore)
  have hapart := (List.pairwise_append.mp h.apart).2.2 before hbefore label List.mem_cons_self
  exact ways_word_eq_nil fun hstands => hapart (stands_of_delimited hplain hback (hrest ▸ hstands))

theorem spells_repeated_char {accepted : CharClass} {least : Nat} {greedy : Bool} :
    (Expr.repeated (.char accepted) least none greedy).Spells text ↔
      least ≤ text.length ∧ text.all accepted.accepts = true := by
  constructor
  · rintro ⟨copies, hleast, -, hcopies, rfl⟩
    have hchars : ∃ chars : Text, copies = chars.map ([·]) ∧ chars.all accepted.accepts = true := by
      clear hleast
      revert hcopies
      induction copies with
      | nil => exact fun _ => ⟨[], rfl, rfl⟩
      | cons copy copies ih =>
        intro hcopies
        obtain ⟨⟨c, hc, rfl⟩, hothers⟩ := List.forall_mem_cons.mp hcopies
        obtain ⟨chars, rfl, hchars⟩ := ih hothers
        exact ⟨c :: chars, rfl, by simp [hc, hchars]⟩
    obtain ⟨chars, rfl, hall⟩ := hchars
    rw [List.length_map] at hleast
    have hflatten : (chars.map ([·])).flatten = chars := List.flatMap_singleton' chars
    rw [hflatten]
    exact ⟨hleast, hall⟩
  · rintro ⟨hleast, hall⟩
    refine ⟨text.map ([·]), by simpa using hleast, nofun, fun copy hcopy => ?_,
      (List.flatMap_singleton' text).symm⟩
    obtain ⟨c, hc, rfl⟩ := List.mem_map.mp hcopy
    exact ⟨c, List.all_eq_true.mp hall c hc, rfl⟩

theorem spells_digits : digits.Spells text ↔ IsNumeral text := by
  rw [digits, digit, spells_repeated_char, Nat.one_le_iff_ne_zero, ne_eq, List.length_eq_zero_iff]
  rfl

theorem takes_digits {run back : Text} (hrun : IsNumeral run) (hback : Stops isDecimalDigit back) :
    Takes digits.ways run back [] :=
  Takes.plusChar hrun.1 hrun.2 hback

theorem spells_maybe {e : Expr} : (maybe e).Spells text ↔ text = [] ∨ e.Spells text := by
  constructor
  · rintro ⟨copies, -, hmost, hcopies, rfl⟩
    have hlength := hmost 1 rfl
    match copies with
    | [] => exact .inl rfl
    | [copy] => exact .inr (by simpa using hcopies)
    | _ :: _ :: _ => simp at hlength
  · rintro (rfl | h)
    · exact ⟨[], Nat.zero_le _, by simp, List.forall_mem_nil _, rfl⟩
    · exact ⟨[text], Nat.zero_le _, by simp, by simpa using h, by simp⟩

-- ---------------------------------------------------------------------------
-- Parts of variables
-- ---------------------------------------------------------------------------

/-- The text of a group, if the group takes part. -/
def asGroup (number : Nat) (text : Option Text) : List (Nat × Text) := (text.map (number, ·)).toList

def unlessEmpty (text : Text) : Option Text := if text = [] then none else some text

def dotted : Option Transform → Text
  | some t => '.' :: t.label
  | none => []

private theorem distinct_transformLabels : Distinct transformLabels := ⟨by decide, by decide⟩

private theorem distinct_dateLabels : Distinct dateLabels := ⟨by decide, by decide⟩

private theorem distinct_pictureLabels : Distinct pictureLabels := ⟨by decide, by decide⟩

private theorem distinct_songLabels : Distinct songLabels := ⟨by decide, by decide⟩

private theorem distinct_digestLabels : Distinct digestLabels := ⟨by decide, by decide⟩

private theorem distinct_timeLabels : Distinct timeLabels := ⟨by decide, by decide⟩

private theorem mem_transformLabels (t : Transform) : t.label ∈ transformLabels :=
  List.mem_map_of_mem (by cases t <;> decide)

private theorem mem_dateLabels (field : DateField) : field.label ∈ dateLabels :=
  List.mem_map_of_mem (by cases field <;> decide)

theorem spells_word {label : Text} : (word label).Spells text ↔ text = label := spells_letters

theorem spells_words_map {all : List α} {label : α → Text} (hne : all ≠ []) :
    (words (all.map label)).Spells text ↔ ∃ a ∈ all, label a = text := by
  rw [spells_words (by simpa using hne), List.mem_map]

theorem takes_group_words {labels : List Text} (h : Distinct labels) {label back : Text}
    (hmem : label ∈ labels) (hback : Delimited back) (number : Nat) :
    Takes (Expr.group number (words labels)).ways label back [(number, label)] :=
  (takes_words h hmem hback).group rfl

theorem ways_group_words_eq_nil {labels : List Text} (h : Distinct labels) {word back : Text}
    (hapart : ∀ label ∈ labels, ¬label <+: word) (hback : Delimited back) (number : Nat)
    (here : Cursor) (hrest : here.rest = word ++ back) (hne : labels ≠ []) :
    (Expr.group number (words labels)).ways here = [] := by
  refine Expr.ways_eq_nil fun taken htaken hstands => ?_
  have hmem := (spells_words hne).mp (Expr.spells_group.mp htaken)
  exact hapart taken hmem (stands_of_delimited (List.all_eq_true.mp h.plain taken hmem) hback
    (hrest ▸ hstands))

theorem accepts_oneOf {classes : List CharClass} {c : Char} :
    (oneOf classes).accepts c = true ↔ ∃ one ∈ classes, one.accepts c = true := by
  have hfold (first : CharClass) : (classes.foldl .union first).accepts c = true ↔
      first.accepts c = true ∨ ∃ one ∈ classes, one.accepts c = true := by
    induction classes generalizing first with
    | nil => simp
    | cons one classes ih => simp [ih, CharClass.accepts, or_assoc]
  rw [oneOf, hfold, CharClass.accepts_empty]
  simp

theorem accepts_tagCharacter (c : Char) : tagCharacter.accepts c = Form.isTagCharacter c := by
  have hsingle : '_' ≤ c ∧ c ≤ '_' ↔ c = '_' :=
    ⟨fun h => Char.le_antisymm h.2 h.1, by rintro rfl; exact ⟨Char.le_refl _, Char.le_refl _⟩⟩
  have hranges : Form.isTagCharacter c = ((decide ('A' ≤ c ∧ c ≤ 'Z') ||
      (decide ('a' ≤ c) && decide (c ≤ 'z'))) || (decide ('0' ≤ c) && decide (c ≤ '9')) ||
      c == '_') := rfl
  rw [Bool.eq_iff_iff, tagCharacter, accepts_oneOf, hranges]
  simp only [List.mem_cons, List.not_mem_nil, or_false, exists_eq_or_imp, exists_eq_left,
    CharClass.single, CharClass.accepts, Bool.and_eq_true, decide_eq_true_eq, hsingle,
    Bool.or_eq_true, beq_iff_eq]
  constructor
  · rintro (h | h | h | h)
    exacts [.inl (.inr h), .inl (.inl (.inl h)), .inl (.inl (.inr h)), .inr h]
  · rintro (((h | h) | h) | h)
    exacts [.inr (.inl h), .inr (.inr (.inl h)), .inl h, .inr (.inr (.inr h))]

private theorem spells_transform {number : Nat} :
    (transform number).Spells text ↔ ∃ t, text = dotted t := by
  have hlabels {text : Text} :
      (words transformLabels).Spells text ↔ ∃ t ∈ Transform.all, t.label = text :=
    spells_words_map (List.cons_ne_nil _ _)
  rw [transform, spells_maybe, Expr.spells_seqAll_append]
  simp only [spells_letters, Expr.spells_seqAll_one, Expr.spells_group, hlabels]
  constructor
  · rintro (rfl | ⟨-, -, rfl, ⟨t, -, rfl⟩, rfl⟩)
    · exact ⟨none, rfl⟩
    · exact ⟨some t, rfl⟩
  · rintro ⟨t | t, rfl⟩
    · exact .inl rfl
    · exact .inr ⟨['.'], t.label, rfl, ⟨t, by cases t <;> decide, rfl⟩, rfl⟩

private theorem takes_transform (number : Nat) (t : Option Transform) (rest : Text) :
    Takes (transform number).ways (dotted t) ('}' :: rest)
      (asGroup number (t.map Transform.label)) := by
  have hback : Delimited ('}' :: rest) := ⟨'}', rest, rfl, rfl⟩
  cases t with
  | none =>
    exact .optional_none fun here hrest => Expr.ways_eq_nil_of_lead rfl (by simp [hrest]; decide)
  | some t =>
    have hlabel := takes_group_words distinct_transformLabels (mem_transformLabels t) hback number
    exact .optional (Takes.seqAll_concat (takes_letters ['.'] _) hlabel)

private theorem spells_scope : scope.Spells text ↔
    ∃ group, (∀ digits ∈ group, IsNumeral digits) ∧ text = spellGroup group := by
  rw [scope, spells_maybe, Expr.spells_group, Expr.spells_seqAll_append]
  simp only [spells_letters, Expr.spells_seqAll_one, spells_digits]
  constructor
  · rintro (rfl | ⟨-, digits, rfl, hdigits, rfl⟩)
    · exact ⟨none, nofun, rfl⟩
    · exact ⟨some digits, fun _ h => Option.some.inj h ▸ hdigits, rfl⟩
  · rintro ⟨group | digits, hgroup, rfl⟩
    · exact .inl rfl
    · exact .inr ⟨['$'], digits, rfl, hgroup digits rfl, rfl⟩

private theorem takes_scope {group : Option Text} {back : Text}
    (hgroup : ∀ digits ∈ group, IsNumeral digits ∧ Stops isDecimalDigit back)
    (hback : Stops (· == '$') back) :
    Takes scope.ways (spellGroup group) back (asGroup 1 (group.map ('$' :: ·))) := by
  cases group with
  | none =>
    refine .optional_none fun here hrest => Expr.ways_eq_nil_of_lead rfl fun c hc => ?_
    refine Bool.eq_false_iff.mpr fun haccepts => ?_
    rw [← (CharClass.accepts_single '$' c).mp haccepts, hrest] at hc
    exact absurd (hback '$' hc) (by decide)
  | some run =>
    obtain ⟨hrun, hstops⟩ := hgroup run rfl
    exact .optional ((Takes.seqAll_concat (takes_letters ['$'] _) (takes_digits hrun hstops)).group rfl)

private theorem spells_maybe_digits {number : Nat} :
    (maybe (.group number digits)).Spells text ↔ isDigits text = true := by
  rw [spells_maybe, Expr.spells_group, spells_digits, IsNumeral]
  constructor
  · rintro (rfl | h)
    · rfl
    · exact h.2
  · intro h
    exact (em (text = [])).imp id fun hne => ⟨hne, h⟩

private theorem takes_maybe_digits {run back : Text} (hrun : isDigits run = true)
    (hback : Stops isDecimalDigit back) (number : Nat) :
    Takes (maybe (.group number digits)).ways run back (asGroup number (unlessEmpty run)) := by
  unfold unlessEmpty
  split
  case isTrue hempty =>
    subst hempty
    exact .optional_none fun here hrest => Expr.ways_eq_nil_of_lead rfl (hrest ▸ hback)
  case isFalse hne => exact .optional ((takes_digits ⟨hne, hrun⟩ hback).group rfl)

-- ---------------------------------------------------------------------------
-- Indexes
-- ---------------------------------------------------------------------------

private theorem spells_width : width.Spells text ↔ ∃ run, isDigits run = true ∧ text = '%' :: run ++ ['d'] := by
  simp only [width, Expr.spells_group, Expr.spells_seqAll_append, Expr.spells_seqAll_one,
    spells_letters, digit, spells_repeated_char]
  constructor
  · rintro ⟨-, -, ⟨-, run, rfl, ⟨-, hrun⟩, rfl⟩, rfl, rfl⟩
    exact ⟨run, hrun, rfl⟩
  · rintro ⟨run, hrun, rfl⟩
    exact ⟨_, _, ⟨_, _, rfl, ⟨Nat.zero_le _, hrun⟩, rfl⟩, rfl, rfl⟩

private theorem takes_width {run : Text} (hrun : isDigits run = true) (back : Text) :
    Takes width.ways ('%' :: run ++ ['d']) back [(3, '%' :: run ++ ['d']), (4, run)] := by
  have hdigits : Takes (Expr.repeated digit 0 none true).ways run (['d'] ++ back) [] :=
    Takes.starChar hrun (stops_cons (by decide) back)
  exact (Takes.seqAll_append (Takes.seqAll_concat (takes_letters ['%'] _) (hdigits.group rfl))
    (takes_letters ['d'] back)).group rfl

private theorem spells_system : (maybe (.group 5 (.char systemLetter))).Spells text ↔
    ∃ system : NumberSystem, text = system.label := by
  rw [spells_maybe, Expr.spells_group]
  constructor
  · rintro (rfl | ⟨c, hc, rfl⟩)
    · exact ⟨.decimal, rfl⟩
    · obtain ⟨one, hone, hc⟩ := accepts_oneOf.mp hc
      simp only [List.mem_cons, List.not_mem_nil, or_false] at hone
      rcases hone with rfl | rfl | rfl | rfl <;> rw [← (CharClass.accepts_single _ c).mp hc]
      · exact ⟨.binary, rfl⟩
      · exact ⟨.octal, rfl⟩
      · exact ⟨.roman, rfl⟩
      · exact ⟨.hexadecimal, rfl⟩
  · rintro ⟨system, rfl⟩
    cases system with
    | decimal => exact .inl rfl
    | binary => exact .inr ⟨'b', by decide, rfl⟩
    | octal => exact .inr ⟨'o', by decide, rfl⟩
    | hexadecimal => exact .inr ⟨'h', by decide, rfl⟩
    | roman => exact .inr ⟨'r', by decide, rfl⟩

private theorem takes_system (system : NumberSystem) {back : Text}
    (hback : ∀ c ∈ back.head?, c ∉ "bohr".toList) :
    Takes (maybe (.group 5 (.char systemLetter))).ways system.label back
      (asGroup 5 (unlessEmpty system.label)) := by
  have hletter {c : Char} (hc : systemLetter.accepts c = true) :
      Takes (maybe (.group 5 (.char systemLetter))).ways [c] back [(5, [c])] :=
    .optional ((Takes.char hc back).group rfl)
  cases system with
  | decimal =>
    refine .optional_none fun here hrest => Expr.ways_eq_nil_of_lead rfl fun c hc => ?_
    refine Bool.eq_false_iff.mpr fun haccepts => hback c (hrest ▸ hc) ?_
    obtain ⟨one, hone, haccepts⟩ := accepts_oneOf.mp haccepts
    simp only [List.mem_cons, List.not_mem_nil, or_false] at hone
    rcases hone with rfl | rfl | rfl | rfl <;>
    · rw [← (CharClass.accepts_single _ c).mp haccepts]
      decide
  | binary => exact hletter (by decide)
  | octal => exact hletter (by decide)
  | hexadecimal => exact hletter (by decide)
  | roman => exact hletter (by decide)

def numbers (f : SkipForm) : Text :=
  f.first ++ match f.second with
    | some second => '-' :: second
    | none => []

theorem spelling_eq_numbers (f : SkipForm) : f.spelling = f.blanks ++ numbers f :=
  List.append_assoc ..

private theorem spells_skipped : (Expr.seqAll skipped).Spells text ↔
    ∃ f : SkipForm, f.WellFormed ∧ f.blanks = [] ∧ text = numbers f := by
  have hpair : (Expr.seqAll skipped).Spells text ↔ ∃ front back, digits.Spells front ∧
      (maybe (.seqAll (letters ['-'] ++ [digits]))).Spells back ∧ text = front ++ back := Iff.rfl
  simp only [hpair, Expr.spells_seqAll_append, Expr.spells_seqAll_one, spells_maybe, spells_letters,
    spells_digits]
  constructor
  · rintro ⟨first, -, hfirst, rfl | ⟨-, second, rfl, hsecond, rfl⟩, rfl⟩
    · exact ⟨⟨[], first, none⟩, ⟨rfl, hfirst, nofun⟩, rfl, rfl⟩
    · exact ⟨⟨[], first, some second⟩,
        ⟨rfl, hfirst, fun _ h => Option.some.inj h ▸ hsecond⟩, rfl, rfl⟩
  · rintro ⟨⟨blanks, first, second⟩, ⟨-, hfirst, hsecond⟩, -, rfl⟩
    refine ⟨first, _, hfirst, ?_, rfl⟩
    cases second with
    | none => exact .inl rfl
    | some second => exact .inr ⟨['-'], second, rfl, hsecond second rfl, rfl⟩

private theorem takes_skipped {f : SkipForm} (h : f.WellFormed) {back : Text}
    (hback : Stops (fun c => isDecimalDigit c || c == '-') back) :
    Takes (Expr.seqAll skipped).ways (numbers f) back [] := by
  have hdigits : Stops isDecimalDigit back := fun c hc => (Bool.or_eq_false_iff.mp (hback c hc)).1
  have hnone : Stops (CharClass.single '-').accepts back := fun c hc => by
    have hne := (Bool.or_eq_false_iff.mp (hback c hc)).2
    exact Bool.eq_false_iff.mpr fun h =>
      beq_eq_false_iff_ne.mp hne ((CharClass.accepts_single '-' c).mp h).symm
  obtain ⟨blanks, first, second⟩ := f
  cases second with
  | none =>
    have hrest : Takes (maybe (.seqAll (letters ['-'] ++ [digits]))).ways [] back [] :=
      .optional_none fun here hrest => Expr.ways_eq_nil_of_lead rfl (hrest ▸ hnone)
    have hfirst : Takes digits.ways first ([] ++ back) [] := takes_digits h.first hdigits
    exact hfirst.seq hrest
  | some second =>
    have hsecond : Takes digits.ways second back [] := takes_digits (h.second second rfl) hdigits
    have hrest : Takes (maybe (.seqAll (letters ['-'] ++ [digits]))).ways ('-' :: second) back [] :=
      .optional (Takes.seqAll_concat (takes_letters ['-'] _) hsecond)
    exact Takes.seq (takes_digits h.first (stops_cons (by decide) (second ++ back))) hrest

private theorem spells_anotherSkipped : anotherSkipped.Spells text ↔
    ∃ f : SkipForm, f.WellFormed ∧ text = ';' :: f.spelling := by
  simp only [anotherSkipped, Expr.spells_seqAll_append, Expr.spells_seqAll_one, spells_letters,
    spells_repeated_char, spells_skipped, spelling_eq_numbers]
  constructor
  · rintro ⟨-, -, ⟨-, blanks, rfl, ⟨-, hblanks⟩, rfl⟩, ⟨f, hf, -, rfl⟩, rfl⟩
    exact ⟨{ f with blanks }, ⟨hblanks, hf.first, hf.second⟩, by simp [numbers]⟩
  · rintro ⟨f, hf, rfl⟩
    exact ⟨_, _, ⟨_, f.blanks, rfl, ⟨Nat.zero_le _, hf.blanks⟩, rfl⟩,
      ⟨{ f with blanks := [] }, ⟨rfl, hf.first, hf.second⟩, rfl, rfl⟩, by simp [numbers]⟩

private theorem takes_anotherSkipped {f : SkipForm} (h : f.WellFormed) {back : Text}
    (hback : Stops (fun c => isDecimalDigit c || c == '-') back) :
    Takes anotherSkipped.ways (';' :: f.spelling) back [] := by
  have hblanks : Takes (Expr.repeated (.char (.property .blank)) 0 none true).ways f.blanks
      (numbers f ++ back) [] := by
    refine Takes.starChar h.blanks ?_
    rw [numbers, List.append_assoc]
    exact SkipForm.stops_isBlank_of_isNumeral h.first _
  have hall := Takes.seqAll_append (Takes.seqAll_concat (takes_letters [';'] _) hblanks)
    (takes_skipped h hback)
  rw [spelling_eq_numbers]
  exact hall

theorem joinWith_spelling (first : SkipForm) (others : List SkipForm) :
    joinWith ';' ((first :: others).map SkipForm.spelling) =
      first.spelling ++ others.flatMap fun f => ';' :: f.spelling := by
  induction others generalizing first with
  | nil => exact (List.append_nil _).symm
  | cons next others ih =>
    rw [List.map_cons, joinWith_cons (by simp), ih next, List.flatMap_cons]
    rfl

private theorem spells_others : (Expr.repeated anotherSkipped 0 none true).Spells text ↔
    ∃ others : List SkipForm, (∀ f ∈ others, f.WellFormed) ∧
      text = others.flatMap fun f => ';' :: f.spelling := by
  constructor
  · rintro ⟨copies, -, -, hcopies, rfl⟩
    induction copies with
    | nil => exact ⟨[], List.forall_mem_nil _, rfl⟩
    | cons copy copies ih =>
      obtain ⟨hcopy, hothers⟩ := List.forall_mem_cons.mp hcopies
      obtain ⟨f, hf, rfl⟩ := spells_anotherSkipped.mp hcopy
      obtain ⟨others, hwell, hflatten⟩ := ih hothers
      refine ⟨f :: others, List.forall_mem_cons.mpr ⟨hf, hwell⟩, ?_⟩
      rw [List.flatten_cons, hflatten, List.flatMap_cons]
  · rintro ⟨others, hwell, rfl⟩
    refine ⟨others.map fun f => ';' :: f.spelling, Nat.zero_le _, nofun, fun copy hcopy => ?_, rfl⟩
    obtain ⟨f, hf, rfl⟩ := List.mem_map.mp hcopy
    exact spells_anotherSkipped.mpr ⟨f, hwell f hf, rfl⟩

private theorem stops_others (others : List SkipForm) (back : Text) :
    Stops (fun c => isDecimalDigit c || c == '-')
      ((others.flatMap fun f => ';' :: f.spelling) ++ '>' :: back) := by
  cases others with
  | nil => exact stops_cons (by decide) back
  | cons next others => exact stops_cons (by decide) _

private theorem takes_others {others : List SkipForm} (h : ∀ f ∈ others, f.WellFormed) (back : Text) :
    Takes (Expr.repeated anotherSkipped 0 none true).ways
      (others.flatMap fun f => ';' :: f.spelling) ('>' :: back) [] := by
  induction others with
  | nil => exact .star_none rfl fun here hrest => Expr.ways_eq_nil_of_lead rfl (by simp [hrest]; decide)
  | cons f others ih =>
    obtain ⟨hf, hothers⟩ := List.forall_mem_cons.mp h
    exact Takes.star_cons rfl (takes_anotherSkipped hf (stops_others others back)) (ih hothers)

def skipText : List SkipForm → Option Text
  | [] => none
  | entries => some (joinWith ';' (entries.map SkipForm.spelling))

private theorem spells_skipList : skipList.Spells text ↔
    ∃ entries, SkipForm.ListWellFormed entries ∧ text = SkipForm.listSpelling entries := by
  simp only [skipList, spells_maybe, Expr.spells_seqAll_append, Expr.spells_seqAll_one,
    Expr.spells_group, spells_letters, spells_skipped, spells_others]
  constructor
  · rintro (rfl | ⟨-, -, ⟨-, -, rfl, ⟨-, -, ⟨first, hfirst, hblanks, rfl⟩, ⟨others, hothers, rfl⟩,
      rfl⟩, rfl⟩, rfl, rfl⟩)
    · exact ⟨[], ⟨List.forall_mem_nil _, nofun⟩, rfl⟩
    · refine ⟨first :: others, ⟨List.forall_mem_cons.mpr ⟨hfirst, hothers⟩, ?_⟩, ?_⟩
      · exact fun f hf => Option.some.inj hf ▸ hblanks
      · rw [SkipForm.listSpelling, joinWith_spelling, spelling_eq_numbers, hblanks]
        · rfl
        · exact List.cons_ne_nil _ _
  · rintro ⟨entries, ⟨hwell, hblanks⟩, rfl⟩
    cases entries with
    | nil => exact .inl rfl
    | cons first others =>
      obtain ⟨hfirst, hothers⟩ := List.forall_mem_cons.mp hwell
      refine .inr ⟨_, _, ⟨_, _, rfl, ⟨_, _, ⟨first, hfirst, hblanks first rfl, rfl⟩,
        ⟨others, hothers, rfl⟩, rfl⟩, rfl⟩, rfl, ?_⟩
      rw [SkipForm.listSpelling, joinWith_spelling, spelling_eq_numbers, hblanks first rfl]
      · rfl
      · exact List.cons_ne_nil _ _

private theorem takes_skipList {entries : List SkipForm} (h : SkipForm.ListWellFormed entries) {back : Text}
    (hback : Delimited back) :
    Takes skipList.ways (SkipForm.listSpelling entries) back (asGroup 7 (skipText entries)) := by
  cases entries with
  | nil =>
    refine .optional_none fun here hrest => Expr.ways_eq_nil_of_lead rfl fun c hc => ?_
    obtain ⟨d, rest, rfl, hd⟩ := hback
    obtain rfl : d = c := by simpa [hrest] using hc
    refine Bool.eq_false_iff.mpr fun haccepts => ?_
    obtain rfl := (CharClass.accepts_single _ _).mp haccepts
    exact absurd hd (by decide)
  | cons first others =>
    obtain ⟨hfirst, hothers⟩ := List.forall_mem_cons.mp h.1
    have hentries := Takes.seqAll_concat (takes_skipped hfirst (stops_others others back))
      (takes_others hothers back)
    have hjoin : numbers first ++ (others.flatMap fun f => ';' :: f.spelling) =
        joinWith ';' ((first :: others).map SkipForm.spelling) := by
      rw [joinWith_spelling, spelling_eq_numbers, h.2 first rfl, List.nil_append]
    rw [hjoin] at hentries
    have hgroup : Takes _ _ (['>'] ++ back) _ := hentries.group (n := 7) rfl
    exact .optional (Takes.seqAll_append (Takes.seqAll_concat (takes_letters ['<'] _) hgroup)
      (takes_letters ['>'] back))

def indexGroups (f : IndexForm) : List (Nat × Text) :=
  asGroup 7 (skipText f.skip) ++ asGroup 6 (unlessEmpty f.step) ++
    asGroup 5 (unlessEmpty f.system.label) ++ [(3, '%' :: f.width ++ ['d']), (4, f.width)] ++
    asGroup 2 (unlessEmpty f.start) ++ asGroup 1 (f.group.map ('$' :: ·))

theorem stops_append {p : Char → Bool} {front back : Text} (hfront : Stops p front)
    (hback : Stops p back) : Stops p (front ++ back) := by
  cases front with
  | nil => exact hback
  | cons c rest => exact stops_cons (hfront c rfl) _

theorem Delimited.stops {p : Char → Bool} {back : Text} (h : Delimited back)
    (hdot : p '.' = false) (hbrace : p '}' = false) : Stops p back := by
  obtain ⟨c, rest, rfl, hc⟩ := h
  rw [isDelimiter, Bool.or_eq_true, beq_iff_eq, beq_iff_eq] at hc
  rcases hc with rfl | rfl
  · exact stops_cons hdot rest
  · exact stops_cons hbrace rest

theorem takes_index {f : IndexForm} (h : f.WellFormed) {back : Text} (hback : Delimited back) :
    Takes (Expr.seqAll VariableKind.index.front).ways f.spelling back (indexGroups f) := by
  obtain ⟨group, start, width, system, step, skip⟩ := f
  obtain ⟨hgroup, hstart, hwidth, hstep, hskip⟩ := h
  have hletters : Stops ("bohr".toList.contains ·)
      ((step ++ SkipForm.listSpelling skip) ++ back) :=
    stops_append (fun c hc => by simpa using IndexForm.letter_not_mem_head? hstep skip c hc)
      (hback.stops (by decide) (by decide))
  have hdigits : Stops isDecimalDigit (SkipForm.listSpelling skip ++ back) :=
    stops_append (IndexForm.stops_listSpelling skip) (hback.stops (by decide) (by decide))
  rw [IndexForm.spelling_eq]
  have hlist : Takes (Expr.seqAll [skipList]).ways _ back _ := takes_skipList hskip hback
  have hsystem := Takes.seqAll_cons
    (takes_system system fun c hc => by simpa [List.append_assoc] using hletters c (by simpa using hc))
    (Takes.seqAll_cons (takes_maybe_digits hstep hdigits 6) hlist)
  have hpercent := Takes.seqAll_cons (takes_width hwidth _) hsystem
  have hfirst : Takes (maybe (.group 2 digits)).ways start
      ((('%' :: width ++ ['d']) ++ (system.label ++ (step ++ SkipForm.listSpelling skip))) ++ back)
      (asGroup 2 (unlessEmpty start)) :=
    takes_maybe_digits hstart (stops_cons (by decide) _) 2
  have hnumber := Takes.seqAll_cons hfirst hpercent
  have hnumeral : ∀ digits ∈ group, IsNumeral digits ∧ Stops isDecimalDigit
      ((start ++ (('%' :: width ++ ['d']) ++ (system.label ++ (step ++ SkipForm.listSpelling skip))))
        ++ back) := by
    intro digits hdigits
    obtain ⟨hdigits, rfl⟩ := hgroup digits hdigits
    exact ⟨hdigits, stops_cons (by decide) _⟩
  have hdollar : Stops (· == '$') start := fun c hc => by
    have hdigit := isDecimalDigit_of_mem hstart (List.mem_of_mem_head? hc)
    exact Bool.eq_false_iff.mpr fun h => by simp [eq_of_beq h] at hdigit; revert hdigit; decide
  have hnoDollar (more : Text) : Stops (· == '$') ((start ++ '%' :: more) ++ back) :=
    stops_append (stops_append hdollar (stops_cons (by decide) more))
      (hback.stops (by decide) (by decide))
  have hall := Takes.seqAll_cons (takes_scope hnumeral (hnoDollar _)) hnumber
  rw [List.append_assoc]
  rw [show '%' :: (width ++ 'd' :: (system.label ++ (step ++ SkipForm.listSpelling skip))) =
    ('%' :: width ++ ['d']) ++ (system.label ++ (step ++ SkipForm.listSpelling skip)) by simp]
  exact hall

theorem exists_index_of_spells (h : (Expr.seqAll VariableKind.index.front).Spells text) :
    ∃ f : IndexForm, f.WellFormed ∧ f.spelling = text := by
  simp only [VariableKind.front, Expr.spells_seqAll_cons, Expr.spells_seqAll_nil, spells_scope,
    spells_maybe_digits, spells_width, spells_system, spells_skipList] at h
  obtain ⟨-, -, ⟨group, hgroup, rfl⟩, ⟨start, -, hstart, ⟨-, -, ⟨width, hwidth, rfl⟩, ⟨-, -,
    ⟨system, rfl⟩, ⟨step, -, hstep, ⟨-, -, ⟨skip, hskip, rfl⟩, rfl, rfl⟩, rfl⟩, rfl⟩, rfl⟩, rfl⟩,
    rfl⟩ := h
  cases group with
  | none =>
    have hnone (run : Text) (hmem : run ∈ (none : Option Text)) : IsNumeral run ∧ start = [] :=
      absurd hmem (Option.not_mem_none run)
    exact ⟨⟨none, start, width, system, step, skip⟩, ⟨hnone, hstart, hwidth, hstep, hskip⟩, by
      simp [IndexForm.spelling_eq]⟩
  | some digits =>
    -- What the pattern could also read as a start belongs to the group.
    have hdigits := hgroup digits rfl
    refine ⟨⟨some (digits ++ start), [], width, system, step, skip⟩,
      ⟨fun _ hmem => ?_, rfl, hwidth, hstep, hskip⟩, by simp [IndexForm.spelling_eq, spellGroup]⟩
    obtain rfl := Option.some.inj hmem
    refine ⟨⟨by simp [hdigits.1], ?_⟩, rfl⟩
    simpa [isDigits] using ⟨by simpa [isDigits] using hdigits.2, by simpa [isDigits] using hstart⟩

end Grammar

open Grammar

-- ---------------------------------------------------------------------------
-- Forms
-- ---------------------------------------------------------------------------

namespace Form

def applied : Form → Option Transform
  | stem t | extension t | parent _ t | picture _ _ _ t | song _ t | digest _ t | time _ _ t
  | exifTool _ t | column _ t => t
  | index _ | capture _ _ => none

def frontText : Form → Text
  | stem _ => "f".toList
  | extension _ => "ext".toList
  | parent levels _ => levels ++ ['p']
  | picture short item none _ => (if short then "x".toList else "exif".toList) ++ '.' :: item.label
  | picture short item (some field) _ =>
    (if short then "x".toList else "exif".toList) ++ '.' :: (item.label ++ '.' :: field.label)
  | index f => f.spelling
  | song tag _ => "id3.".toList ++ tag.label
  | digest algorithm _ => "hash.".toList ++ algorithm.label
  | time item field _ => item.label ++ '.' :: field.label
  | exifTool tag _ => "xt.".toList ++ tag
  | capture group (.text t) => spellGroup group ++ '.' :: t.label
  | capture group (.date field) => spellGroup group ++ '.' :: ("dt.".toList ++ field.label)
  | column digits _ => "csv.".toList ++ digits

private theorem joinWith_transformFields (name : Text) (t : Option Transform) :
    joinWith '.' (name :: transformFields t) = name ++ dotted t := by
  cases t with
  | none => exact (List.append_nil name).symm
  | some t => rfl

private theorem joinWith_cons_transformFields (name next : Text) (t : Option Transform) :
    joinWith '.' (name :: next :: transformFields t) = name ++ '.' :: (next ++ dotted t) := by
  rw [joinWith_cons (by simp), joinWith_transformFields]

private theorem joinWith_pair_transformFields (name next : Text) (t : Option Transform) :
    joinWith '.' (name :: next :: transformFields t) = (name ++ '.' :: next) ++ dotted t := by
  rw [joinWith_cons_transformFields, List.append_assoc, List.cons_append]

theorem body_eq (f : Form) : f.body = f.frontText ++ dotted f.applied := by
  cases f with
  | stem t => exact joinWith_transformFields _ t
  | extension t => exact joinWith_transformFields _ t
  | parent levels t => exact joinWith_transformFields _ t
  | picture short item field t =>
    cases field with
    | none => exact joinWith_pair_transformFields _ _ t
    | some field =>
      show joinWith '.' (_ :: _ :: _ :: transformFields t) = _
      rw [joinWith_cons (List.cons_ne_nil _ _), joinWith_pair_transformFields]
      exact (List.append_assoc _ ('.' :: (item.label ++ '.' :: field.label)) _).symm
  | index f => exact (List.append_nil _).symm
  | song tag t => exact joinWith_cons_transformFields _ _ t
  | digest algorithm t => exact joinWith_cons_transformFields _ _ t
  | time item field t => exact joinWith_pair_transformFields _ _ t
  | exifTool tag t => exact joinWith_cons_transformFields _ _ t
  | capture group format => cases format <;> exact (List.append_nil _).symm
  | column digits t => exact joinWith_cons_transformFields _ _ t

def frontGroups : Form → List (Nat × Text)
  | stem _ | extension _ => []
  | parent levels _ => asGroup 1 (unlessEmpty levels)
  | picture _ item none _ => [(1, item.label)]
  | picture _ item (some field) _ => [(3, field.label), (2, item.label)]
  | index f => indexGroups f
  | song tag _ => [(1, tag.label)]
  | digest algorithm _ => [(1, algorithm.label)]
  | time item field _ => [(2, field.label), (1, item.label)]
  | exifTool tag _ => [(1, tag)]
  | capture group (.text t) => (2, t.label) :: asGroup 1 (group.map ('$' :: ·))
  | capture group (.date field) => (3, field.label) :: asGroup 1 (group.map ('$' :: ·))
  | column digits _ => [(1, digits)]

theorem takes_front {f : Form} (h : f.WellFormed) {back : Text} (hback : Delimited back) :
    Takes (Expr.seqAll f.kind.front).ways f.frontText back f.frontGroups := by
  cases f with
  | stem t => exact takes_letters _ back
  | extension t => exact takes_letters _ back
  | parent levels t =>
    have hlevels : Takes (maybe (.group 1 digits)).ways levels (['p'] ++ back)
        (asGroup 1 (unlessEmpty levels)) :=
      takes_maybe_digits h (stops_cons (by decide) back) 1
    exact Takes.seqAll_cons hlevels (takes_letters ['p'] back)
  | picture short item field t =>
    have hname (rest : Text) : Takes (words ["exif".toList, "x".toList]).ways
        (if short then "x".toList else "exif".toList) ('.' :: rest) [] :=
      takes_words ⟨by decide, by decide⟩ (by cases short <;> decide) ⟨'.', rest, rfl, rfl⟩
    cases field with
    | none =>
      have hmem : item.label ∈ pictureLabels := by
        refine List.mem_map_of_mem ?_
        cases item with
        | captureDate => exact absurd (h.mp rfl) (by decide)
        | _ => decide
      exact takes_around_dot (hname _) (takes_group_words distinct_pictureLabels hmem hback 1).altLeft
    | some field =>
      obtain rfl := h.mpr rfl
      have hdate := takes_around_dot ((takes_letters "cdt".toList _).group (n := 2) rfl)
        (takes_group_words distinct_dateLabels (mem_dateLabels field) hback 3)
      -- No other attribute is tried with success, since none begins like the capture date.
      refine takes_around_dot (hname _) (hdate.altRight fun here hrest => ?_)
      rw [List.append_assoc] at hrest
      exact ways_group_words_eq_nil distinct_pictureLabels (by decide) ⟨'.', _, rfl, rfl⟩ 1 here hrest
        (by decide)
  | index f => exact takes_index h hback
  | song tag t =>
    exact Takes.seqAll_concat (takes_letters _ _)
      (takes_group_words distinct_songLabels (List.mem_map_of_mem (by cases tag <;> decide)) hback 1)
  | digest algorithm t =>
    exact Takes.seqAll_concat (takes_letters _ _)
      (takes_group_words distinct_digestLabels (List.mem_map_of_mem (by cases algorithm <;> decide))
        hback 1)
  | time item field t =>
    have hmem : item.label ∈ timeLabels := List.mem_map_of_mem (by cases item <;> decide)
    exact takes_around_dot (takes_group_words distinct_timeLabels hmem ⟨'.', _, rfl, rfl⟩ 1)
      (takes_group_words distinct_dateLabels (mem_dateLabels field) hback 2)
  | exifTool tag t =>
    have htag : tag.all tagCharacter.accepts = true := by
      simpa only [funext accepts_tagCharacter] using h.2
    have hstops : Stops tagCharacter.accepts back := hback.stops (by decide) (by decide)
    exact Takes.seqAll_concat (takes_letters _ _) ((Takes.plusChar h.1 htag hstops).group rfl)
  | capture group format =>
    have hscope (rest : Text) : Takes scope.ways (spellGroup group) ('.' :: rest)
        (asGroup 1 (group.map ('$' :: ·))) :=
      takes_scope (fun digits hdigits => ⟨h digits hdigits, stops_cons (by decide) rest⟩)
        (stops_cons (by decide) rest)
    cases format with
    | text t =>
      exact takes_around_dot (hscope _)
        (takes_group_words distinct_transformLabels (mem_transformLabels t) hback 2).altLeft
    | date field =>
      have hdate := Takes.seqAll_concat (takes_letters "dt.".toList _)
        (takes_group_words distinct_dateLabels (mem_dateLabels field) hback 3)
      refine takes_around_dot (hscope _) (hdate.altRight fun here hrest => ?_)
      -- Nor does a transform begin like a date.
      have hdt : here.rest = "dt".toList ++ '.' :: (field.label ++ back) := hrest
      exact ways_group_words_eq_nil distinct_transformLabels (by decide) ⟨'.', _, rfl, rfl⟩ 2 here hdt
        (by decide)
  | column digits t =>
    exact Takes.seqAll_concat (takes_letters _ _)
      ((takes_digits h (hback.stops (by decide) (by decide))).group rfl)

def groups (f : Form) : List (Nat × Text) :=
  asGroup f.kind.groupCount (f.applied.map Transform.label) ++ f.frontGroups

theorem applied_eq_none {f : Form} (h : f.kind.mayTransform = false) : f.applied = none := by
  cases f with
  | index f => rfl
  | capture group format => rfl
  | _ => cases h

theorem takes_parts {f : Form} (h : f.WellFormed) (rest : Text) :
    Takes (Expr.seqAll f.kind.parts).ways f.body ('}' :: rest) f.groups := by
  have hdelimited : Delimited (dotted f.applied ++ '}' :: rest) := by
    cases f.applied with
    | none => exact ⟨'}', rest, rfl, rfl⟩
    | some t => exact ⟨'.', _, rfl, rfl⟩
  have hfront := takes_front h hdelimited
  rw [VariableKind.parts, body_eq, groups]
  cases hmay : f.kind.mayTransform with
  | true =>
    rw [if_pos rfl]
    exact Takes.seqAll_concat hfront (takes_transform _ _ rest)
  | false =>
    rw [applied_eq_none hmay] at hfront ⊢
    simpa [dotted, asGroup] using hfront

/-- Where a form stands, the pattern of its kind prefers to take the form. -/
theorem takes_form {f : Form} (h : f.WellFormed) (back : Text) :
    Takes f.kind.expr.ways f.spelling back f.groups := by
  have hall := Takes.seqAll_append (Takes.seqAll_append (takes_letters ['{'] _) (takes_parts h back))
    (takes_letters ['}'] back)
  simpa [VariableKind.expr, spelling] using hall

theorem exists_of_spells_front {kind : VariableKind} (h : (Expr.seqAll kind.front).Spells text)
    (t : Option Transform) (ht : kind.mayTransform = false → t = none) :
    ∃ f : Form, f.kind = kind ∧ f.WellFormed ∧ f.body = text ++ dotted t := by
  cases kind with
  | stem =>
    obtain rfl := spells_letters.mp h
    exact ⟨.stem t, rfl, trivial, body_eq _⟩
  | extension =>
    obtain rfl := spells_letters.mp h
    exact ⟨.extension t, rfl, trivial, body_eq _⟩
  | parent =>
    obtain ⟨levels, back, hlevels, hback, rfl⟩ := Expr.spells_seqAll_append.mp h
    obtain rfl := spells_letters.mp hback
    exact ⟨.parent levels t, rfl, spells_maybe_digits.mp hlevels, body_eq _⟩
  | picture =>
    obtain ⟨name, rest, hname, hrest, rfl⟩ := spells_around_dot.mp h
    obtain ⟨short, rfl⟩ : ∃ short : Bool, name = if short then "x".toList else "exif".toList := by
      rcases List.mem_pair.mp ((spells_words (by decide)).mp hname) with rfl | rfl
      · exact ⟨false, rfl⟩
      · exact ⟨true, rfl⟩
    rcases hrest with hitem | hdate
    · obtain ⟨item, hmem, rfl⟩ := (spells_words_map (by decide)).mp hitem
      have hitem : item ≠ .captureDate := by rintro rfl; exact absurd hmem (by decide)
      exact ⟨.picture short item none t, rfl, ⟨fun h => absurd h hitem, nofun⟩, body_eq _⟩
    · obtain ⟨label, part, hlabel, hpart, rfl⟩ := spells_around_dot.mp hdate
      obtain rfl := spells_word.mp hlabel
      obtain ⟨field, -, rfl⟩ := (spells_words_map (by decide)).mp hpart
      exact ⟨.picture short .captureDate (some field) t, rfl, ⟨fun _ => rfl, fun _ => rfl⟩, body_eq _⟩
  | index =>
    obtain rfl := ht rfl
    obtain ⟨f, hf, rfl⟩ := exists_index_of_spells h
    exact ⟨.index f, rfl, hf, body_eq _⟩
  | song =>
    obtain ⟨front, label, hfront, hlabel, rfl⟩ := Expr.spells_seqAll_append.mp h
    obtain rfl := spells_letters.mp hfront
    obtain ⟨tag, -, rfl⟩ := (spells_words_map (by decide)).mp hlabel
    exact ⟨.song tag t, rfl, trivial, body_eq _⟩
  | digest =>
    obtain ⟨front, label, hfront, hlabel, rfl⟩ := Expr.spells_seqAll_append.mp h
    obtain rfl := spells_letters.mp hfront
    obtain ⟨algorithm, -, rfl⟩ := (spells_words_map (by decide)).mp hlabel
    exact ⟨.digest algorithm t, rfl, trivial, body_eq _⟩
  | time =>
    obtain ⟨name, label, hname, hlabel, rfl⟩ := spells_around_dot.mp h
    obtain ⟨item, -, rfl⟩ := (spells_words_map (by decide)).mp hname
    obtain ⟨field, -, rfl⟩ := (spells_words_map (by decide)).mp hlabel
    exact ⟨.time item field t, rfl, trivial, body_eq _⟩
  | exifTool =>
    obtain ⟨front, tag, hfront, htag, rfl⟩ := Expr.spells_seqAll_append.mp h
    obtain rfl := spells_letters.mp hfront
    have htag : (Expr.repeated (.char tagCharacter) 1 none true).Spells tag := htag
    obtain ⟨hne, htag⟩ := spells_repeated_char.mp htag
    refine ⟨.exifTool tag t, rfl, ⟨List.ne_nil_of_length_pos hne, ?_⟩, body_eq _⟩
    simpa only [funext accepts_tagCharacter] using htag
  | capture =>
    obtain rfl := ht rfl
    obtain ⟨name, rest, hname, hrest, rfl⟩ := spells_around_dot.mp h
    obtain ⟨group, hgroup, rfl⟩ := spells_scope.mp hname
    rcases hrest with hlabel | hdate
    · obtain ⟨label, -, rfl⟩ := (spells_words_map (by decide)).mp hlabel
      exact ⟨.capture group (.text label), rfl, hgroup, body_eq _⟩
    · obtain ⟨front, part, hfront, hpart, rfl⟩ := Expr.spells_seqAll_append.mp hdate
      obtain rfl := spells_letters.mp hfront
      obtain ⟨field, -, rfl⟩ := (spells_words_map (by decide)).mp hpart
      exact ⟨.capture group (.date field), rfl, hgroup, body_eq _⟩
  | column =>
    obtain ⟨front, digits, hfront, hdigits, rfl⟩ := Expr.spells_seqAll_append.mp h
    obtain rfl := spells_letters.mp hfront
    exact ⟨.column digits t, rfl, spells_digits.mp hdigits, body_eq _⟩

theorem exists_of_spells_parts {kind : VariableKind} (h : (Expr.seqAll kind.parts).Spells text) :
    ∃ f : Form, f.kind = kind ∧ f.WellFormed ∧ f.body = text := by
  rw [VariableKind.parts] at h
  split at h
  case isTrue hmay =>
    obtain ⟨front, back, hfront, hback, rfl⟩ := Expr.spells_seqAll_append.mp h
    obtain ⟨t, rfl⟩ := spells_transform.mp (Expr.spells_seqAll_one.mp hback)
    exact exists_of_spells_front hfront t fun hnot => by simp [hmay] at hnot
  case isFalse =>
    rw [List.append_nil] at h
    obtain ⟨f, hkind, hf, hbody⟩ := exists_of_spells_front h none fun _ => rfl
    exact ⟨f, hkind, hf, hbody.trans (List.append_nil text)⟩

/-- The pattern of a kind spells nothing but the forms of the kind. -/
theorem exists_of_spells {kind : VariableKind} (h : kind.expr.Spells text) :
    ∃ f : Form, f.kind = kind ∧ f.WellFormed ∧ f.spelling = text := by
  obtain ⟨before, close, hbefore, hclose, rfl⟩ := Expr.spells_seqAll_append.mp h
  obtain ⟨first, inner, hfirst, hinner, rfl⟩ := Expr.spells_seqAll_append.mp hbefore
  obtain rfl := spells_letters.mp hfirst
  obtain rfl := spells_letters.mp hclose
  obtain ⟨f, hkind, hf, rfl⟩ := exists_of_spells_parts hinner
  exact ⟨f, hkind, hf, rfl⟩

end Form

end Relabel
