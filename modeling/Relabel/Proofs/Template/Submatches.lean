import Relabel.Proofs.Template.Bounds

/-!
# Tokens from submatches

A pattern hands over the texts of its groups, and a variable is made from them: labels are looked up
in their tables, numbers are read, and a list of numbers to skip is taken apart once more. The
tables know every label that a pattern admits, and a part that is left out becomes its default, so
this gives the tokens of the template (`extract_eq`). It fails on bad numbers and on nothing else:
`extraction_fails_iff`.
-/

namespace Relabel

open Text

inductive MatchError
  | submatches (kind : VariableKind)
  | template (e : TemplateError)
deriving DecidableEq, Repr

namespace Submatches

-- ---------------------------------------------------------------------------
-- Variables from the texts of groups
-- ---------------------------------------------------------------------------

/-- What a table knows about a text; no text is expected that it does not know. -/
def known (kind : VariableKind) : Option α → Except MatchError α
  | some a => .ok a
  | none => .error (.submatches kind)

def groupNumber : Text → Except TemplateError (Option Nat)
  | '$' :: digits => (Form.number largestCount .group digits).map some
  | _ => .ok none

def skipRange (entry : Text) : Except TemplateError SkipRange :=
  if entry.contains '-' then do
    let a ← Form.number Index.largest.toNat .skipRange (entry.takeWhile (· ≠ '-'))
    let b ← Form.number Index.largest.toNat .skipRange (entry.dropWhile (· ≠ '-')).tail
    return .between a b
  else do
    let n ← Form.number Index.largest.toNat .skipNumber entry
    return .between n n

def skipRanges (text : Text) : Except TemplateError (List SkipRange) :=
  if text = [] then .ok [] else (Text.pieces ';' text).mapM skipRange

section

variable (group : Nat → Text)

def indexOf : Except MatchError Index := do
  let step ← (Form.numberOr 1 Index.largest.toNat .indexStep (group 6)).mapError .template
  if step = 0 then throw (.template (.zeroStep (group 0)))
  let width ← (Form.numberOr 0 largestCount .indexWidth (group 4)).mapError .template
  if Index.widest < width then throw (.template (.badNumber .indexWidth (group 4)))
  let number ← (groupNumber (group 1)).mapError .template
  let start ← (Form.numberOr 1 Index.largest.toNat .indexStart (group 2)).mapError .template
  let system ← known .index (NumberSystem.ofLabel? (group 5))
  let skip ← (skipRanges (group 7)).mapError .template
  return ⟨start, step, width, system, skip, number⟩

def pictureOf : Except MatchError Variable :=
  if group 2 = [] then do
    let item ← known .picture (PictureAttribute.ofLabel? (group 1))
    return .picture item none (Transform.ofLabel? (group 4))
  else do
    let item ← known .picture (PictureAttribute.ofLabel? (group 2))
    let field ← known .picture (DateField.ofLabel? (group 3))
    return .picture item (some field) (Transform.ofLabel? (group 4))

def captureOf : Except MatchError Variable := do
  let format ← match Transform.ofLabel? (group 2) with
    | some t => pure (.text t)
    | none => CaptureFormat.date <$> known .capture (DateField.ofLabel? (group 3))
  let number ← (groupNumber (group 1)).mapError .template
  return .capture number format

def variableOf : VariableKind → Except MatchError Variable
  | .stem => .ok (.stem (Transform.ofLabel? (group 1)))
  | .extension => .ok (.extension (Transform.ofLabel? (group 1)))
  | .parent => do
    let levels ← (Form.numberOr 1 largestCount .parentLevel (group 1)).mapError .template
    return .parent levels (Transform.ofLabel? (group 2))
  | .picture => pictureOf group
  | .index => .index <$> indexOf group
  | .song => do
    let tag ← known .song (SongTag.ofLabel? (group 1))
    return .song tag (Transform.ofLabel? (group 2))
  | .digest => do
    let algorithm ← known .digest (DigestAlgorithm.ofLabel? (group 1))
    return .digest algorithm (Transform.ofLabel? (group 2))
  | .time => do
    let item ← known .time (TimeAttribute.ofLabel? (group 1))
    let field ← known .time (DateField.ofLabel? (group 2))
    return .time item field (Transform.ofLabel? (group 3))
  | .exifTool => .ok (.exifTool (group 1) (Transform.ofLabel? (group 2)))
  | .capture => captureOf group
  | .column => do
    let number ← (Form.number largestCount .column (group 1)).mapError .template
    return .column number (Transform.ofLabel? (group 2))

end

def matchesOf (template : Text) (kind : VariableKind) : Except MatchError (List Match) :=
  (kind.pattern.allMatches template).mapM fun m =>
    if m.groups.length < kind.groupCount then .error (.submatches kind) else .ok m

def tokensOf (template : Text) (kind : VariableKind) : Except MatchError (List Token) := do
  (← matchesOf template kind).mapM fun m => do
    return ⟨m.groupText template 0, ← variableOf (m.groupText template) kind⟩

def extract (template : Text) : Except MatchError Tokens := do
  return (← VariableKind.all.mapM (tokensOf template)).flatten

-- ---------------------------------------------------------------------------
-- Steps that check alike
-- ---------------------------------------------------------------------------

section

variable {g : ε → ε'}

theorem bind_eq_mapError {x : Except ε α} {x' : Except ε' α} {next : α → Except ε β}
    {next' : α → Except ε' β} (hx : x' = x.mapError g) (h : ∀ a, next' a = (next a).mapError g) :
    x' >>= next' = (x >>= next).mapError g := by
  cases x with
  | error e => rw [hx]; rfl
  | ok a => rw [hx]; exact h a

theorem mapM_eq_of_forall₂ {as : List α} {bs : List β} {f : α → Except ε γ} {f' : β → Except ε γ}
    (h : List.Forall₂ (fun a b => f a = f' b) as bs) : as.mapM f = bs.mapM f' := by
  induction h with
  | nil => rfl
  | cons hab _ ih => rw [List.mapM_cons, List.mapM_cons, hab, ih]

theorem mapM_mapError (f : α → Except ε β) (items : List α) :
    items.mapM (fun a => (f a).mapError g) = (items.mapM f).mapError g := by
  induction items with
  | nil => rfl
  | cons a items ih =>
    rw [List.mapM_cons, List.mapM_cons]
    exact bind_eq_mapError rfl fun b => bind_eq_mapError ih fun bs => rfl

end

-- ---------------------------------------------------------------------------
-- Variables of forms
-- ---------------------------------------------------------------------------

private theorem ofLabel?_getD (t : Option Transform) :
    Transform.ofLabel? ((t.map Transform.label).getD []) = t := by
  cases t with
  | none => rfl
  | some t => exact Transform.ofLabel?_label t

private theorem getD_unlessEmpty (text : Text) : (Grammar.unlessEmpty text).getD [] = text := by
  rw [Grammar.unlessEmpty]
  split
  case isTrue hnil => exact hnil.symm
  case isFalse => rfl

private theorem groupNumber_getD (group : Option Text) :
    groupNumber ((group.map ('$' :: ·)).getD []) = Form.groupNumber group := by
  cases group <;> rfl

private theorem skipRange_spelling {f : SkipForm} (h : f.WellFormed) :
    skipRange f.spelling = Form.skipRange f := by
  obtain ⟨blanks, first, second⟩ := f
  -- Neither the blanks nor the digits hold a dash: the first one is the one between the bounds.
  have hdash : ∀ c ∈ blanks ++ first, c ≠ '-' := by
    rintro c hc rfl
    rcases List.mem_append.mp hc with hc | hc
    · exact absurd (List.all_eq_true.mp h.blanks '-' hc) (by decide)
    · exact not_mem_of_isDigits h.first.2 (by decide) hc
  cases second with
  | none =>
    have hnone : ¬ (blanks ++ first ++ []).contains '-' = true := by
      rw [List.append_nil, List.contains_iff_mem]
      exact fun hmem => hdash '-' hmem rfl
    rw [SkipForm.spelling, skipRange, if_neg hnone, List.append_nil]
    rfl
  | some second =>
    have hall : (blanks ++ first).all (· ≠ '-') = true :=
      List.all_eq_true.mpr fun c hc => decide_eq_true (hdash c hc)
    have hstops : Stops (· ≠ '-') ('-' :: second) := stops_cons (by decide) second
    rw [SkipForm.spelling, skipRange, if_pos (by simp), takeWhile_append_of_stops hall hstops,
      dropWhile_append_of_stops hall hstops]
    rfl

private theorem skipRanges_getD {entries : List SkipForm} (h : ∀ entry ∈ entries, entry.WellFormed) :
    skipRanges ((Grammar.skipText entries).getD []) = entries.mapM Form.skipRange := by
  cases entries with
  | nil => rfl
  | cons first others =>
    have hpieces : pieces ';' (joinWith ';' ((first :: others).map SkipForm.spelling)) =
        (first :: others).map SkipForm.spelling := by
      refine pieces_joinWith (List.cons_ne_nil _ _) fun name hname => ?_
      obtain ⟨entry, hentry, rfl⟩ := List.mem_map.mp hname
      exact SkipForm.not_mem_spelling (h entry hentry) (by decide) (by decide) (by decide)
    -- The list is not taken for one that is left out, since its first entry has digits.
    have hne : joinWith ';' ((first :: others).map SkipForm.spelling) ≠ [] := by
      intro hnil
      rw [hnil] at hpieces
      have hfirst := (List.cons.inj hpieces).1
      simp [SkipForm.spelling, (h first List.mem_cons_self).first.1] at hfirst
    show skipRanges (joinWith ';' ((first :: others).map SkipForm.spelling)) = _
    rw [skipRanges, if_neg hne, hpieces]
    refine mapM_eq_of_forall₂ (List.forall₂_map_left_iff.mpr (List.forall₂_same.mpr ?_))
    exact fun entry hentry => skipRange_spelling (h entry hentry)

end Submatches

/-- The texts of the groups of the form; group 0 is its spelling. -/
def Form.groupText (f : Form) : Nat → Text
  | 0 => f.spelling
  | n + 1 => (f.captures[n]?).join.getD []

namespace Submatches

private theorem indexOf_form {f : IndexForm} (h : f.WellFormed) : indexOf (Form.index f).groupText =
    (Form.indexOf (Form.index f).spelling f).mapError .template := by
  have hsystem : NumberSystem.ofLabel? ((Form.index f).groupText 5) = some f.system := by
    show NumberSystem.ofLabel? ((Grammar.unlessEmpty f.system.label).getD []) = _
    rw [getD_unlessEmpty, NumberSystem.ofLabel?_label]
  have hstep : (Form.index f).groupText 6 = f.step := getD_unlessEmpty f.step
  have hstart : (Form.index f).groupText 2 = f.start := getD_unlessEmpty f.start
  have hnumber : groupNumber ((Form.index f).groupText 1) = Form.groupNumber f.group :=
    groupNumber_getD f.group
  have hskip : skipRanges ((Form.index f).groupText 7) = f.skip.mapM Form.skipRange :=
    skipRanges_getD h.skip.1
  rw [indexOf, hsystem, hstep, hstart, hnumber, hskip]
  refine bind_eq_mapError rfl fun step => ?_
  split
  case isTrue => rfl
  case isFalse =>
    refine bind_eq_mapError rfl fun width => ?_
    split
    case isTrue => rfl
    case isFalse =>
      refine bind_eq_mapError rfl fun number => bind_eq_mapError rfl fun start => ?_
      exact bind_eq_mapError rfl fun skip => rfl

private theorem captureOf_form (group : Option Text) (format : CaptureFormat) :
    captureOf (Form.capture group format).groupText =
      ((Form.capture group format).resolve (Form.capture group format).spelling).mapError
        .template := by
  have hgroup : groupNumber ((Form.capture group format).groupText 1) = Form.groupNumber group := by
    cases format <;> exact groupNumber_getD group
  rw [captureOf, hgroup]
  cases format with
  | text t =>
    have ht : Transform.ofLabel? ((Form.capture group (.text t)).groupText 2) = some t :=
      Transform.ofLabel?_label t
    rw [ht]
    exact bind_eq_mapError rfl fun number => rfl
  | date field =>
    have hnone : Transform.ofLabel? ((Form.capture group (.date field)).groupText 2) = none := rfl
    have hfield : DateField.ofLabel? ((Form.capture group (.date field)).groupText 3) =
        some field := DateField.ofLabel?_label field
    rw [hnone, hfield]
    exact bind_eq_mapError rfl fun number => rfl

private theorem pictureOf_form (short : Bool) (item : PictureAttribute) (field : Option DateField)
    (t : Option Transform) :
    pictureOf (Form.picture short item field t).groupText = .ok (.picture item field t) := by
  have ht : Transform.ofLabel? ((Form.picture short item field t).groupText 4) = t := by
    cases field <;> exact ofLabel?_getD t
  rw [pictureOf, ht]
  cases field with
  | none =>
    have hitem : PictureAttribute.ofLabel? ((Form.picture short item none t).groupText 1) =
        some item := PictureAttribute.ofLabel?_label item
    rw [if_pos (show (Form.picture short item none t).groupText 2 = [] from rfl), hitem]
    rfl
  | some field =>
    have hne : (Form.picture short item (some field) t).groupText 2 ≠ [] := by
      show item.label ≠ []
      cases item <;> decide
    have hitem : PictureAttribute.ofLabel? ((Form.picture short item (some field) t).groupText 2) =
        some item := PictureAttribute.ofLabel?_label item
    have hfield : DateField.ofLabel? ((Form.picture short item (some field) t).groupText 3) =
        some field := DateField.ofLabel?_label field
    rw [if_neg hne, hitem, hfield]
    rfl

theorem variableOf_form {f : Form} (h : f.WellFormed) :
    variableOf f.groupText f.kind = (f.resolve f.spelling).mapError .template := by
  cases f with
  | stem t =>
    have ht : Transform.ofLabel? ((Form.stem t).groupText 1) = t := ofLabel?_getD t
    rw [Form.kind, variableOf, ht]
    rfl
  | extension t =>
    have ht : Transform.ofLabel? ((Form.extension t).groupText 1) = t := ofLabel?_getD t
    rw [Form.kind, variableOf, ht]
    rfl
  | parent levels t =>
    have hlevels : (Form.parent levels t).groupText 1 = levels := getD_unlessEmpty levels
    have ht : Transform.ofLabel? ((Form.parent levels t).groupText 2) = t := ofLabel?_getD t
    rw [Form.kind, variableOf, hlevels, ht]
    exact bind_eq_mapError rfl fun n => rfl
  | picture short item field t => exact pictureOf_form short item field t
  | index f =>
    rw [Form.kind, variableOf, indexOf_form h, map_eq_pure_bind]
    exact bind_eq_mapError rfl fun i => rfl
  | song tag t =>
    have htag : SongTag.ofLabel? ((Form.song tag t).groupText 1) = some tag :=
      SongTag.ofLabel?_label tag
    have ht : Transform.ofLabel? ((Form.song tag t).groupText 2) = t := ofLabel?_getD t
    rw [Form.kind, variableOf, htag, ht]
    rfl
  | digest algorithm t =>
    have halgorithm : DigestAlgorithm.ofLabel? ((Form.digest algorithm t).groupText 1) =
        some algorithm := DigestAlgorithm.ofLabel?_label algorithm
    have ht : Transform.ofLabel? ((Form.digest algorithm t).groupText 2) = t := ofLabel?_getD t
    rw [Form.kind, variableOf, halgorithm, ht]
    rfl
  | time item field t =>
    have hitem : TimeAttribute.ofLabel? ((Form.time item field t).groupText 1) = some item :=
      TimeAttribute.ofLabel?_label item
    have hfield : DateField.ofLabel? ((Form.time item field t).groupText 2) = some field :=
      DateField.ofLabel?_label field
    have ht : Transform.ofLabel? ((Form.time item field t).groupText 3) = t := ofLabel?_getD t
    rw [Form.kind, variableOf, hitem, hfield, ht]
    rfl
  | exifTool tag t =>
    have ht : Transform.ofLabel? ((Form.exifTool tag t).groupText 2) = t := ofLabel?_getD t
    rw [Form.kind, variableOf, ht]
    rfl
  | capture group format => exact captureOf_form group format
  | column digits t =>
    have ht : Transform.ofLabel? ((Form.column digits t).groupText 2) = t := ofLabel?_getD t
    rw [Form.kind, variableOf, ht]
    exact bind_eq_mapError rfl fun n => rfl

-- ---------------------------------------------------------------------------
-- Tokens of matches
-- ---------------------------------------------------------------------------

theorem groupText_eq {m : Match} {f : Form} (htext : m.span.text template = f.spelling)
    (hcaptures : m.captures template = f.captures) : m.groupText template = f.groupText := by
  funext number
  cases number with
  | zero => exact htext
  | succ n =>
    have hgroup : (f.captures[n]?).join = (m.groups[n]?).join.map (·.text template) := by
      rw [← hcaptures, Match.captures, List.getElem?_map]
      rcases m.groups[n]? with _ | _ | _ <;> rfl
    rw [Form.groupText, hgroup, Match.groupText, Match.group?]
    cases (m.groups[n]?).join <;> rfl

theorem matchesOf_eq (template : Text) (kind : VariableKind) :
    matchesOf template kind = .ok (kind.pattern.allMatches template) := by
  rw [matchesOf, mapM_eq_ok]
  refine List.map_congr_left fun m hm => if_neg ?_
  rw [(Template.carved template).complete kind m hm]
  exact Nat.lt_irrefl _

theorem tokensOf_eq (template : Text) (kind : VariableKind) :
    tokensOf template kind = (Template.tokensOf template kind).mapError .template := by
  obtain ⟨forms, hforms, hkinds, htokens⟩ := (Template.carved template).extracted kind
  rw [tokensOf, matchesOf_eq, htokens, ← mapM_mapError]
  refine mapM_eq_of_forall₂ (((List.forall₂_and_left _ _).mpr ⟨hkinds, hforms.flip⟩).flip.imp ?_)
  rintro m f ⟨⟨rfl, hf⟩, htext, hcaptures⟩
  rw [groupText_eq htext hcaptures, variableOf_form hf]
  exact bind_eq_mapError rfl fun v => rfl

/-- The patterns give the tokens of the template, or they fail on the same number. -/
theorem extract_eq (template : Text) :
    extract template = (Template.tokens template).mapError .template := by
  have hkinds : tokensOf template = fun kind =>
      (Template.tokensOf template kind).mapError .template := funext (tokensOf_eq template)
  rw [extract, hkinds, mapM_mapError]
  exact bind_eq_mapError rfl fun byKind => rfl

theorem extract_eq_ok_iff {found : Tokens} :
    extract template = .ok found ↔ Template.tokens template = .ok found := by
  rw [extract_eq]
  cases Template.tokens template <;> simp [Except.mapError]

end Submatches

namespace Template

-- ---------------------------------------------------------------------------
-- When an extraction fails
-- ---------------------------------------------------------------------------

/-- A match in the template has the text and the parts of the form. -/
def Recognized (template : Text) (f : Form) : Prop :=
  f.WellFormed ∧ ∃ m ∈ f.kind.pattern.allMatches template,
    m.span.text template = f.spelling ∧ m.captures template = f.captures

theorem mem_forms_iff {f : Form} : f ∈ (placedForms kind 0 template).map (·.2) ↔
    f.kind = kind ∧ Recognized template f := by
  constructor
  · intro h
    obtain ⟨m, hm, htext, hcaptures⟩ := exists_of_mem_right (forall₂_forms kind template) h
    obtain ⟨⟨place, f⟩, hmem, rfl⟩ := List.mem_map.mp h
    obtain ⟨rfl, hf, -⟩ := mem_placedForms_iff.mp hmem
    exact ⟨rfl, hf, m, hm, htext, hcaptures⟩
  · rintro ⟨rfl, hf, m, hm, htext, -⟩
    -- The match holds a form with the same spelling, and that can only be the form itself.
    obtain ⟨f', front, back, hkind, hf', hsplit, hholds⟩ := exists_form_of_mem hm
    have hspelling : f.spelling = f'.spelling := htext.symm.trans (text_of_holds hsplit hholds)
    obtain rfl := not_inside hf hf' (hspelling ▸ List.infix_rfl)
    exact List.mem_map.mpr ⟨_, mem_placedForms_iff.mpr ⟨rfl, hf, front, back, hsplit, rfl⟩, rfl⟩

theorem exists_tokensOf_iff (kind : VariableKind) :
    (∃ found, tokensOf template kind = .ok found) ↔
      ∀ f : Form, f.kind = kind → Recognized template f → ¬ f.HasBadNumber := by
  rw [tokensOf_eq]
  constructor
  · rintro ⟨found, hfound⟩ f hkind hrecognized
    obtain ⟨token, -, htoken⟩ :=
      exists_mem_of_mapM_eq_ok hfound (mem_forms_iff.mpr ⟨hkind, hrecognized⟩)
    obtain ⟨v, hv, -⟩ := bind_eq_ok.mp htoken
    exact (Form.exists_writtenAs_iff hrecognized.1).mp
      ⟨v, (Form.resolve_eq_ok_iff hrecognized.1 _).mp hv⟩
  · intro h
    have hforms : ∀ f ∈ (placedForms kind 0 template).map (·.2), ∃ token : Token,
        (do return ⟨f.spelling, ← f.resolve f.spelling⟩ : Except TemplateError Token) =
          .ok token := by
      intro f hf
      obtain ⟨hkind, hrecognized⟩ := mem_forms_iff.mp hf
      obtain ⟨v, hv⟩ :=
        (Form.exists_writtenAs_iff hrecognized.1).mpr (h f hkind hrecognized)
      exact ⟨⟨f.spelling, v⟩, bind_eq_ok.mpr ⟨v, hv.resolve_eq _, rfl⟩⟩
    obtain ⟨found, hfound⟩ := exists_map_eq_ok hforms
    exact ⟨found, mapM_eq_ok.mpr hfound⟩

theorem exists_tokens_iff (template : Text) : (∃ found, tokens template = .ok found) ↔
    ∀ f : Form, Recognized template f → ¬ f.HasBadNumber := by
  constructor
  · rintro ⟨found, hfound⟩ f
    obtain ⟨byKind, hbyKind, -⟩ := bind_eq_ok.mp hfound
    obtain ⟨ofKind, -, hkind⟩ := exists_mem_of_mapM_eq_ok hbyKind (VariableKind.mem_all f.kind)
    exact (exists_tokensOf_iff f.kind).mp ⟨ofKind, hkind⟩ f rfl
  · intro h
    have hkinds : ∀ kind ∈ VariableKind.all, ∃ ofKind, tokensOf template kind = .ok ofKind :=
      fun kind _ => (exists_tokensOf_iff kind).mpr fun f _ => h f
    obtain ⟨byKind, hbyKind⟩ := exists_map_eq_ok hkinds
    exact ⟨byKind.flatten, bind_eq_ok.mpr ⟨byKind, mapM_eq_ok.mpr hbyKind, rfl⟩⟩

theorem inBounds_of_tokens {found : Tokens} {token : Token} {i : Index}
    (h : tokens template = .ok found) (htoken : token ∈ found) (hindex : token.wanted = .index i) :
    i.InBounds := by
  obtain ⟨body, -, kind, form, hform, -, hresolve⟩ := (mem_tokens h).mp htoken
  obtain ⟨-, hf, -⟩ := Form.readAs?_eq_some_iff.mp hform
  have hwritten := (Form.resolve_eq_ok_iff hf _).mp (hindex ▸ hresolve)
  exact (Variable.inBounds_iff _).mpr ⟨form, hwritten⟩

/-- What the patterns capture always makes variables, but for numbers that cannot be used: an
extraction fails just when a recognized variable has one. The indexes of an extraction that succeeds
have a step and keep within their bounds. -/
theorem extraction_fails_iff (template : Text) :
    (∀ kind, Submatches.extract template ≠ .error (.submatches kind)) ∧
    ((∃ e, Submatches.extract template = .error e) ↔
      ∃ f : Form, Recognized template f ∧ f.HasBadNumber) ∧
    Submatches.extract template = (tokens template).mapError .template ∧
    ∀ found, Submatches.extract template = .ok found →
      ∀ token ∈ found, ∀ i, token.wanted = .index i →
        1 ≤ i.step ∧ i.width ≤ Index.widest ∧ 0 ≤ i.start ∧
          ∀ r ∈ i.skip, 0 ≤ r.least ∧ r.least ≤ r.greatest := by
  have heq := Submatches.extract_eq template
  have hfails : (∃ e, Submatches.extract template = .error e) ↔
      ¬ ∃ found, tokens template = .ok found := by
    rw [heq]
    cases tokens template <;> simp [Except.mapError]
  refine ⟨fun kind h => ?known, hfails.trans ?bad, heq, fun found h token htoken i hindex => ?index⟩
  case known =>
    rw [heq] at h
    cases htokens : tokens template <;> rw [htokens] at h <;> cases h
  case bad =>
    simp only [exists_tokens_iff, not_forall, not_not, exists_prop]
  case index =>
    have htokens := Submatches.extract_eq_ok_iff.mp h
    obtain ⟨⟨hstart, -⟩, ⟨hstep, -⟩, hwidth, hskip, -⟩ := inBounds_of_tokens htokens htoken hindex
    exact ⟨hstep, hwidth, hstart, fun r hr => ⟨(hskip r hr).1, r.least_le_greatest⟩⟩

theorem extraction_fails_iff_arabicLevel :
    (∃ e, Submatches.extract "\x7b\u0663p\x7d".toList = .error e) ∧
    ∃ token i, Submatches.extract "{5%02d3}".toList = .ok [token] ∧ token.wanted = .index i ∧
      1 ≤ i.step ∧ i.width ≤ Index.widest := by
  -- An Arabic digit is recognized as a level, but it is no number; an index with usable numbers is
  -- extracted.
  constructor
  · have hf : (Form.parent ['\u0663'] none).WellFormed := show isDigits ['\u0663'] = true by decide
    have hsplit : "\x7b\u0663p\x7d".toList =
        [] ++ ((Form.parent ['\u0663'] none).spelling ++ []) := by decide
    obtain ⟨m, hm, hholds⟩ := exists_match_of_form hf hsplit
    have hbad : (Form.parent ['\u0663'] none).HasBadNumber :=
      .inl (show ¬ ['\u0663'].all Char.isDigit = true by decide)
    exact (extraction_fails_iff _).2.1.mpr
      ⟨_, ⟨hf, m, hm, text_of_holds hsplit hholds, hholds.captures⟩, hbad⟩
  · have htokens : tokens "{5%02d3}".toList =
        .ok [⟨"{5%02d3}".toList, .index ⟨5, 3, 2, .decimal, [], none⟩⟩] := rfl
    have hextract := (extraction_fails_iff "{5%02d3}".toList).2.2.1
    rw [htokens] at hextract
    obtain ⟨hstep, hwidth, -⟩ :=
      (extraction_fails_iff _).2.2.2 _ hextract _ List.mem_cons_self _ rfl
    exact ⟨_, _, hextract, rfl, hstep, hwidth⟩

end Template

end Relabel
