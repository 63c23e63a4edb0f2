import Mathlib.Data.List.Forall2
import Relabel.Proofs.Template.Forms
import Relabel.Proofs.Template.Segments
import Relabel.Proofs.Template.Tokens

/-!
# Variables written and read back

A variable may be written in several ways: its numbers may have zeros in front, a number that is the
default may be left out, and white space may stand in front of a number to skip. Whichever way is
taken, a template that holds the spelling and no other brace has just this variable:
`tokens_of_written`.
-/

namespace Relabel

open Text

-- ---------------------------------------------------------------------------
-- Numbers
-- ---------------------------------------------------------------------------

def Denotes (digits : Text) (n : Nat) : Prop :=
  ∃ zeros, digits = List.replicate zeros '0' ++ decimal n

/-- A number that need not be written when it is the default. -/
def DenotesOr (default : Nat) (digits : Text) (n : Nat) : Prop :=
  Denotes digits n ∨ digits = [] ∧ n = default

theorem Denotes.ne_nil (h : Denotes digits n) : digits ≠ [] := by
  obtain ⟨zeros, rfl⟩ := h
  simp [decimal, Nat.toDigits_ne_nil]

theorem Denotes.all_isDigit (h : Denotes digits n) : digits.all Char.isDigit = true := by
  obtain ⟨zeros, rfl⟩ := h
  simp [all_isDigit_decimal n]

theorem Denotes.isNumeral (h : Denotes digits n) : IsNumeral digits :=
  ⟨h.ne_nil, List.all_eq_true.mpr fun c hc =>
    isDecimalDigit_of_isDigit (List.all_eq_true.mp h.all_isDigit c hc)⟩

theorem Denotes.number? (h : Denotes digits n) : Text.number? digits = some n := by
  rw [Text.number?, if_pos ⟨h.ne_nil, h.all_isDigit⟩]
  obtain ⟨zeros, rfl⟩ := h
  rw [Nat.ofDigitChars_append, Nat.ofDigitChars_replicate_zero, Nat.mul_zero, decimal,
    Nat.ofDigitChars_ten_toDigits]

theorem DenotesOr.isDigits (h : DenotesOr absent digits n) : isDigits digits = true := by
  rcases h with h | ⟨rfl, -⟩
  · exact h.isNumeral.2
  · rfl

theorem trim_append_of_isNumeral (hblanks : blanks.all isBlank = true) (h : IsNumeral digits) :
    Text.trim (blanks ++ digits) = digits := by
  have hnone : ∀ c ∈ digits, isBlank c = false := fun c hc =>
    isBlank_eq_false_of_isDecimalDigit (isDecimalDigit_of_mem h.2 hc)
  have hstart : Text.trimStart (blanks ++ digits) = digits := by
    refine dropWhile_append_of_stops hblanks fun c hc => hnone c (List.mem_of_mem_head? hc)
  have hend : digits.reverse.dropWhile isBlank = digits.reverse := by
    have hstops : Stops isBlank digits.reverse := fun c hc =>
      hnone c (List.mem_reverse.mp (List.mem_of_mem_head? hc))
    exact dropWhile_append_of_stops (show ([] : Text).all isBlank = true from rfl) hstops
  rw [Text.trim, hstart, Text.trimEnd, hend, List.reverse_reverse]

namespace Form

theorem number_append_of_denotes (hblanks : blanks.all isBlank = true) (h : Denotes digits n)
    (hle : n ≤ largest) (field : NumberField) :
    number largest field (blanks ++ digits) = .ok n := by
  have hread : Text.numberUpTo? largest (Text.trim (blanks ++ digits)) = some n := by
    rw [trim_append_of_isNumeral hblanks h.isNumeral, Text.numberUpTo?, h.number?]
    simp [hle]
  rw [number, hread]

theorem number_of_denotes (h : Denotes digits n) (hle : n ≤ largest) (field : NumberField) :
    number largest field digits = .ok n :=
  number_append_of_denotes (show ([] : Text).all isBlank = true from rfl) h hle field

theorem numberOr_of_denotes (h : DenotesOr absent digits n) (hle : n ≤ largest)
    (field : NumberField) : numberOr absent largest field digits = .ok n := by
  rcases h with h | ⟨rfl, rfl⟩
  · rw [numberOr, if_neg h.ne_nil]
    exact number_of_denotes h hle field
  · rfl

end Form

-- ---------------------------------------------------------------------------
-- Writing
-- ---------------------------------------------------------------------------

/-- How an entry of a list of numbers to skip is written: one number, or two in either order. -/
inductive SkipRange.WrittenAs : SkipRange → SkipForm → Prop
  | single (hblanks : blanks.all isBlank = true) (hdigits : Denotes digits n)
      (hle : n ≤ Index.largest.toNat) : WrittenAs (.between n n) ⟨blanks, digits, none⟩
  | pair (hblanks : blanks.all isBlank = true) (hfirst : Denotes first a)
      (hsecond : Denotes second b) (hfirstLe : a ≤ Index.largest.toNat)
      (hsecondLe : b ≤ Index.largest.toNat) :
      WrittenAs (.between a b) ⟨blanks, first, some second⟩

/-- How the group of an index is written: a group takes all digits behind it, so that the start has
to be the default and is left out. -/
inductive GroupWrittenAs : Option Nat → Option Text → Text → Prop
  | ungrouped (start : Text) : GroupWrittenAs none none start
  | grouped (hdigits : Denotes digits n) (hle : n ≤ largestCount) :
      GroupWrittenAs (some n) (some digits) []

/-- How an index is written. -/
inductive Index.WrittenAs : Index → IndexForm → Prop
  | mk {start step width : Nat} {system : NumberSystem} {ranges : List SkipRange}
      {entries : List SkipForm} {group : Option Nat} {groupDigits : Option Text}
      {startDigits stepDigits widthDigits : Text}
      (hgroup : GroupWrittenAs group groupDigits startDigits)
      (hstart : DenotesOr 1 startDigits start) (hstartLe : start ≤ Index.largest.toNat)
      (hstep : DenotesOr 1 stepDigits step) (hstepPos : 0 < step)
      (hstepLe : step ≤ Index.largest.toNat)
      (hwidth : DenotesOr 0 widthDigits width) (hwidthLe : width ≤ Index.widest)
      (hskip : List.Forall₂ SkipRange.WrittenAs ranges entries)
      (hfront : ∀ entry ∈ entries.head?, entry.blanks = []) :
      WrittenAs ⟨start, step, width, system, ranges, group⟩
        ⟨groupDigits, startDigits, widthDigits, system, stepDigits, entries⟩

/-- How a variable is written. -/
inductive Variable.WrittenAs : Variable → Form → Prop
  | stem (t : Option Transform) : WrittenAs (.stem t) (.stem t)
  | extension (t : Option Transform) : WrittenAs (.extension t) (.extension t)
  | parent (hdigits : DenotesOr 1 digits n) (hle : n ≤ largestCount) (t : Option Transform) :
      WrittenAs (.parent n t) (.parent digits t)
  | picture (short : Bool) (hitem : item ≠ .captureDate) (t : Option Transform) :
      WrittenAs (.picture item none t) (.picture short item none t)
  | captureDate (short : Bool) (field : DateField) (t : Option Transform) :
      WrittenAs (.picture .captureDate (some field) t) (.picture short .captureDate (some field) t)
  | index (h : i.WrittenAs f) : WrittenAs (.index i) (.index f)
  | song (tag : SongTag) (t : Option Transform) : WrittenAs (.song tag t) (.song tag t)
  | digest (algorithm : DigestAlgorithm) (t : Option Transform) :
      WrittenAs (.digest algorithm t) (.digest algorithm t)
  | time (item : TimeAttribute) (field : DateField) (t : Option Transform) :
      WrittenAs (.time item field t) (.time item field t)
  | exifTool (hne : tag ≠ []) (htag : tag.all Form.isTagCharacter = true) (t : Option Transform) :
      WrittenAs (.exifTool tag t) (.exifTool tag t)
  | capture (format : CaptureFormat) : WrittenAs (.capture none format) (.capture none format)
  | captureGroup (hdigits : Denotes digits n) (hle : n ≤ largestCount) (format : CaptureFormat) :
      WrittenAs (.capture (some n) format) (.capture (some digits) format)
  | column (hdigits : Denotes digits n) (hle : n ≤ largestCount) (t : Option Transform) :
      WrittenAs (.column n t) (.column digits t)

-- ---------------------------------------------------------------------------
-- What is written is well formed and within its bounds
-- ---------------------------------------------------------------------------

theorem SkipRange.WrittenAs.wellFormed {r : SkipRange} (h : r.WrittenAs f) : f.WellFormed := by
  cases h with
  | single hblanks hdigits hle => exact ⟨hblanks, hdigits.isNumeral, by simp⟩
  | pair hblanks hfirst hsecond hfirstLe hsecondLe =>
    exact ⟨hblanks, hfirst.isNumeral, by simpa using hsecond.isNumeral⟩

theorem SkipRange.WrittenAs.skipRange_eq {r : SkipRange} (h : r.WrittenAs f) :
    Form.skipRange f = .ok r := by
  cases h with
  | single hblanks hdigits hle =>
    simp only [Form.skipRange, Form.number_append_of_denotes hblanks hdigits hle]
    rfl
  | pair hblanks hfirst hsecond hfirstLe hsecondLe =>
    simp only [Form.skipRange, Form.number_append_of_denotes hblanks hfirst hfirstLe,
      Form.number_of_denotes hsecond hsecondLe]
    rfl

theorem GroupWrittenAs.isNumeral {group : Option Nat} {digits : Option Text}
    (h : GroupWrittenAs group digits start) : ∀ d ∈ digits, IsNumeral d ∧ start = [] := by
  cases h with
  | ungrouped => simp
  | grouped hdigits hle =>
    rintro d ⟨⟩
    exact ⟨hdigits.isNumeral, rfl⟩

theorem Form.groupNumber_of_denotes (h : Denotes digits n) (hle : n ≤ largestCount) :
    groupNumber (some digits) = .ok (some n) := by
  rw [groupNumber, number_of_denotes h hle]
  rfl

theorem GroupWrittenAs.groupNumber_eq {group : Option Nat} {digits : Option Text}
    (h : GroupWrittenAs group digits start) : Form.groupNumber digits = .ok group := by
  cases h with
  | ungrouped => rfl
  | grouped hdigits hle => exact Form.groupNumber_of_denotes hdigits hle

theorem wellFormed_of_forall₂ {ranges : List SkipRange} {entries : List SkipForm}
    (h : List.Forall₂ SkipRange.WrittenAs ranges entries) :
    ∀ entry ∈ entries, entry.WellFormed := by
  induction h with
  | nil => simp
  | cons hr _ ih => exact List.forall_mem_cons.mpr ⟨hr.wellFormed, ih⟩

theorem Index.WrittenAs.wellFormed {i : Index} (h : i.WrittenAs f) : f.WellFormed := by
  obtain ⟨hgroup, hstart, -, hstep, -, -, hwidth, -, hskip, hfront⟩ := h
  exact ⟨hgroup.isNumeral, hstart.isDigits, hwidth.isDigits, hstep.isDigits,
    wellFormed_of_forall₂ hskip, hfront⟩

theorem mapM_skipRange_eq {ranges : List SkipRange} {entries : List SkipForm}
    (h : List.Forall₂ SkipRange.WrittenAs ranges entries) :
    entries.mapM Form.skipRange = .ok ranges := by
  rw [mapM_eq_ok]
  induction h with
  | nil => rfl
  | cons hr _ ih => rw [List.map_cons, hr.skipRange_eq, ih, List.map_cons]

theorem Index.WrittenAs.indexOf_eq {i : Index} (h : i.WrittenAs f) (token : Text) :
    Form.indexOf token f = .ok i := by
  obtain ⟨hgroup, hstart, hstartLe, hstep, hstepPos, hstepLe, hwidth, hwidthLe, hskip, -⟩ := h
  have hwidthCount := Nat.le_trans hwidthLe (show Index.widest ≤ largestCount by decide)
  refine bind_eq_ok.mpr ⟨_, Form.numberOr_of_denotes hstep hstepLe _, ?_⟩
  rw [if_neg (Nat.ne_of_gt hstepPos)]
  refine bind_eq_ok.mpr ⟨_, Form.numberOr_of_denotes hwidth hwidthCount _, ?_⟩
  rw [if_neg (Nat.not_lt.mpr hwidthLe)]
  refine bind_eq_ok.mpr ⟨_, hgroup.groupNumber_eq, ?_⟩
  refine bind_eq_ok.mpr ⟨_, Form.numberOr_of_denotes hstart hstartLe _, ?_⟩
  exact bind_eq_ok.mpr ⟨_, mapM_skipRange_eq hskip, rfl⟩

namespace Variable.WrittenAs

variable {v : Variable} {f : Form}

theorem wellFormed (h : v.WrittenAs f) : f.WellFormed := by
  cases h with
  | parent hdigits => exact hdigits.isDigits
  | picture short hitem t => simpa [Form.WellFormed] using hitem
  | captureDate => simp [Form.WellFormed]
  | index h => exact h.wellFormed
  | exifTool hne htag t => exact ⟨hne, htag⟩
  | capture format => simp [Form.WellFormed]
  | captureGroup hdigits => simpa [Form.WellFormed] using hdigits.isNumeral
  | column hdigits => exact hdigits.isNumeral
  | _ => exact trivial

theorem resolve_eq (h : v.WrittenAs f) (token : Text) : f.resolve token = .ok v := by
  cases h with
  | parent hdigits hle => rw [Form.resolve, Form.numberOr_of_denotes hdigits hle]; rfl
  | index h => rw [Form.resolve, h.indexOf_eq]; rfl
  | captureGroup hdigits hle => rw [Form.resolve, Form.groupNumber_of_denotes hdigits hle]; rfl
  | column hdigits hle => rw [Form.resolve, Form.number_of_denotes hdigits hle]; rfl
  | _ => rfl

end Variable.WrittenAs

-- ---------------------------------------------------------------------------
-- What can be written
-- ---------------------------------------------------------------------------

theorem denotes_decimal (n : Nat) : Denotes (decimal n) n := ⟨0, rfl⟩

def SkipRange.InBounds (r : SkipRange) : Prop := 0 ≤ r.least ∧ r.greatest ≤ Index.largest

/-- The numbers are those that an index may have, and an index with a group starts where the
default says. -/
structure Index.InBounds (i : Index) : Prop where
  start : 0 ≤ i.start ∧ i.start ≤ Index.largest
  step : 0 < i.step ∧ i.step ≤ Index.largest
  width : i.width ≤ Index.widest
  skip : ∀ r ∈ i.skip, r.InBounds
  group : ∀ n ∈ i.group, n ≤ largestCount ∧ i.start = 1

/-- Numbers are not too large and texts are such as the grammar of the kind admits. -/
def Variable.InBounds : Variable → Prop
  | stem _ | extension _ | song .. | digest .. | time .. => True
  | parent n _ => n ≤ largestCount
  | picture item field _ => item = .captureDate ↔ field.isSome
  | index i => i.InBounds
  | exifTool tag _ => tag ≠ [] ∧ tag.all Form.isTagCharacter
  | capture group _ => ∀ n ∈ group, n ≤ largestCount
  | column n _ => n ≤ largestCount

theorem toNat_largest : Index.largest.toNat = 9223372036854775807 := rfl

theorem SkipRange.inBounds_between {a b : Nat} (ha : a ≤ Index.largest.toNat)
    (hb : b ≤ Index.largest.toNat) : (SkipRange.between a b).InBounds := by
  rw [toNat_largest] at ha hb
  simp only [InBounds, between, Index.largest]
  omega

def SkipRange.form (r : SkipRange) : SkipForm :=
  ⟨[], decimal r.least.toNat, some (decimal r.greatest.toNat)⟩

theorem SkipRange.InBounds.writtenAs {r : SkipRange} (h : r.InBounds) : r.WrittenAs r.form := by
  obtain ⟨hleast, hgreatest⟩ := h
  obtain ⟨least, greatest, hle⟩ := r
  simp only [Index.largest] at hleast hgreatest
  obtain ⟨a, rfl⟩ := Int.eq_ofNat_of_zero_le hleast
  obtain ⟨b, rfl⟩ := Int.eq_ofNat_of_zero_le (Int.le_trans hleast hle)
  have hbetween : SkipRange.mk a b hle = .between a b := by
    simp only [between, SkipRange.mk.injEq]
    omega
  have hform : form (SkipRange.mk a b hle) = ⟨[], decimal a, some (decimal b)⟩ := rfl
  rw [hform, hbetween]
  exact .pair rfl (denotes_decimal a) (denotes_decimal b) (by rw [toNat_largest]; omega)
    (by rw [toNat_largest]; omega)

theorem SkipRange.WrittenAs.inBounds {r : SkipRange} (h : r.WrittenAs f) : r.InBounds := by
  cases h with
  | single hblanks hdigits hle => exact inBounds_between hle hle
  | pair hblanks hfirst hsecond hfirstLe hsecondLe => exact inBounds_between hfirstLe hsecondLe

theorem inBounds_of_forall₂ {ranges : List SkipRange} {entries : List SkipForm}
    (h : List.Forall₂ SkipRange.WrittenAs ranges entries) : ∀ r ∈ ranges, r.InBounds := by
  induction h with
  | nil => simp
  | cons hr _ ih => exact List.forall_mem_cons.mpr ⟨hr.inBounds, ih⟩

theorem GroupWrittenAs.inBounds {group : Option Nat} {digits : Option Text}
    (h : GroupWrittenAs group digits startDigits) (hstart : DenotesOr 1 startDigits start) :
    ∀ n ∈ group, n ≤ largestCount ∧ start = 1 := by
  cases h with
  | ungrouped => simp
  | grouped hdigits hle =>
    rintro n ⟨⟩
    rcases hstart with hstart | ⟨-, hstart⟩
    · exact absurd rfl hstart.ne_nil
    · exact ⟨hle, hstart⟩

theorem Index.WrittenAs.inBounds {i : Index} (h : i.WrittenAs f) : i.InBounds := by
  obtain ⟨hgroup, hstart, hstartLe, hstep, hstepPos, hstepLe, hwidth, hwidthLe, hskip, hfront⟩ := h
  rw [toNat_largest] at hstartLe hstepLe
  refine ⟨?start, ?step, hwidthLe, inBounds_of_forall₂ hskip, fun n hn => ?group⟩
  case start =>
    simp only [largest]
    omega
  case step =>
    simp only [largest]
    omega
  case group =>
    obtain ⟨hle, rfl⟩ := hgroup.inBounds hstart n hn
    exact ⟨hle, rfl⟩

def Index.form (i : Index) : IndexForm where
  group := i.group.map decimal
  start := if i.group.isSome then [] else decimal i.start.toNat
  width := decimal i.width
  system := i.system
  step := decimal i.step.toNat
  skip := i.skip.map SkipRange.form

theorem Index.InBounds.writtenAs {i : Index} (h : i.InBounds) : i.WrittenAs i.form := by
  obtain ⟨⟨hstart, hstartLe⟩, ⟨hstep, hstepLe⟩, hwidth, hskip, hgroup⟩ := h
  obtain ⟨start, step, width, system, skip, group⟩ := i
  simp only [largest] at hstart hstartLe hstep hstepLe
  obtain ⟨start, rfl⟩ := Int.eq_ofNat_of_zero_le hstart
  obtain ⟨step, rfl⟩ := Int.eq_ofNat_of_zero_le (Int.le_of_lt hstep)
  have hforall : List.Forall₂ SkipRange.WrittenAs skip (skip.map SkipRange.form) := by
    rw [List.forall₂_map_right_iff, List.forall₂_same]
    exact fun r hr => (hskip r hr).writtenAs
  have hfront : ∀ entry ∈ (skip.map SkipRange.form).head?, entry.blanks = [] := by
    cases skip <;> simp [SkipRange.form]
  have hmk {groupDigits startDigits} (hgroup : GroupWrittenAs group groupDigits startDigits)
      (hstart : DenotesOr 1 startDigits start) :
      WrittenAs ⟨start, step, width, system, skip, group⟩ ⟨groupDigits, startDigits,
        decimal width, system, decimal step, skip.map SkipRange.form⟩ :=
    .mk hgroup hstart (by rw [toNat_largest]; omega) (.inl (denotes_decimal step)) (by omega)
      (by rw [toNat_largest]; omega) (.inl (denotes_decimal width)) hwidth hforall hfront
  cases group with
  | none => exact hmk (.ungrouped _) (.inl (denotes_decimal start))
  | some n =>
    obtain ⟨hle, hone⟩ := hgroup n rfl
    exact hmk (.grouped (denotes_decimal n) hle) (.inr ⟨rfl, Int.ofNat.inj hone⟩)

/-- Just the variables within their bounds can be written. -/
theorem Variable.inBounds_iff (v : Variable) : v.InBounds ↔ ∃ f, v.WrittenAs f := by
  constructor
  · intro h
    cases v with
    | stem t => exact ⟨_, .stem t⟩
    | extension t => exact ⟨_, .extension t⟩
    | parent n t => exact ⟨_, .parent (.inl (denotes_decimal n)) h t⟩
    | picture item field t =>
      have hdate : item = .captureDate ↔ field.isSome := h
      cases field with
      | none => exact ⟨_, .picture true (by simpa using hdate) t⟩
      | some field =>
        obtain rfl : item = .captureDate := by simpa using hdate
        exact ⟨_, .captureDate true field t⟩
    | index i => exact ⟨_, .index h.writtenAs⟩
    | song tag t => exact ⟨_, .song tag t⟩
    | digest algorithm t => exact ⟨_, .digest algorithm t⟩
    | time item field t => exact ⟨_, .time item field t⟩
    | exifTool tag t => exact ⟨_, .exifTool h.1 h.2 t⟩
    | capture group format =>
      cases group with
      | none => exact ⟨_, .capture format⟩
      | some n => exact ⟨_, .captureGroup (denotes_decimal n) (h n rfl) format⟩
    | column n t => exact ⟨_, .column (denotes_decimal n) h t⟩
  · rintro ⟨f, h⟩
    cases h with
    | parent hdigits hle t => exact hle
    | picture short hitem t => simpa [InBounds] using hitem
    | captureDate short field t => simp [InBounds]
    | index h => exact h.inBounds
    | exifTool hne htag t => exact ⟨hne, htag⟩
    | capture format => simp [InBounds]
    | captureGroup hdigits hle format => simpa [InBounds] using hle
    | column hdigits hle t => exact hle
    | _ => exact trivial

-- ---------------------------------------------------------------------------
-- Extraction
-- ---------------------------------------------------------------------------

namespace Form

theorem braceFree_body {f : Form} (h : f.WellFormed) : BraceFree f.body :=
  ⟨not_mem_body h (by decide) (by decide) (by decide),
    not_mem_body h (by decide) (by decide) (by decide)⟩

theorem readAs?_body {f : Form} (h : f.WellFormed) (kind : VariableKind) :
    readAs? f.body kind = if kind = f.kind then some f else none := by
  split
  case isTrue hkind => exact readAs?_eq_some_iff.mpr ⟨hkind.symm, h, rfl⟩
  case isFalse hkind =>
    cases hread : readAs? f.body kind with
    | none => rfl
    | some f' =>
      exact absurd (kind_unique hread (readAs?_eq_some_iff.mpr ⟨rfl, h, rfl⟩)) hkind

end Form

namespace Template

theorem groups_spelling {front back : Text} {f : Form} (h : f.WellFormed) (hfront : BraceFree front)
    (hback : BraceFree back) : groups (front ++ f.spelling ++ back) = [f.body] := by
  have hnone : groups back = [] := by simpa [groups] using groups_append hback []
  rw [List.append_assoc, groups_append hfront,
    show f.spelling = enclose f.body from rfl, groups_enclose (Form.braceFree_body h), hnone]

theorem tokensOf_of_written {v : Variable} {f : Form} (h : v.WrittenAs f)
    (hgroups : groups template = [f.body]) (kind : VariableKind) :
    tokensOf template kind = .ok (if kind = f.kind then [⟨f.spelling, v⟩] else []) := by
  rw [tokensOf, hgroups, mapM_eq_ok, List.filterMap_cons, List.filterMap_nil,
    Form.readAs?_body h.wellFormed]
  by_cases hkind : kind = f.kind
  · have hresolve : (do return ⟨enclose f.body, ← f.resolve (enclose f.body)⟩ :
        Except TemplateError Token) = .ok ⟨f.spelling, v⟩ :=
      bind_eq_ok.mpr ⟨v, h.resolve_eq (enclose f.body), rfl⟩
    rw [if_pos hkind, if_pos hkind]
    exact congrArg (fun x => [x]) hresolve
  · rw [if_neg hkind, if_neg hkind]
    rfl

theorem flatten_ofKind (kind : VariableKind) (token : Token) :
    (VariableKind.all.map fun other => if other = kind then [token] else []).flatten =
      [token] := by
  cases kind <;> rfl

theorem tokens_of_groups {v : Variable} {f : Form} (h : v.WrittenAs f)
    (hgroups : groups template = [f.body]) : tokens template = .ok [⟨f.spelling, v⟩] := by
  have hkinds : VariableKind.all.mapM (tokensOf template) = .ok (VariableKind.all.map fun kind =>
      if kind = f.kind then [⟨f.spelling, v⟩] else []) := by
    rw [mapM_eq_ok, List.map_map]
    exact List.map_congr_left fun kind _ => tokensOf_of_written h hgroups kind
  exact bind_eq_ok.mpr ⟨_, hkinds, congrArg Except.ok (flatten_ofKind f.kind _)⟩

/-- Every variable within its bounds can be written, and in whichever way it is written, between
texts without braces it is the only variable and has the text that was written. -/
theorem tokens_of_written :
    (∀ v : Variable, v.InBounds ↔ ∃ f, v.WrittenAs f) ∧
    ∀ (v : Variable) (f : Form) (front back : Text), v.WrittenAs f → BraceFree front →
      BraceFree back → tokens (front ++ f.spelling ++ back) = .ok [⟨f.spelling, v⟩] :=
  ⟨Variable.inBounds_iff, fun _ _ _ _ h hfront hback =>
    tokens_of_groups h (groups_spelling h.wellFormed hfront hback)⟩

theorem tokens_of_written_index :
    tokens "a-{007%03dh05<3; 9-7>}.txt".toList = .ok [⟨"{007%03dh05<3; 9-7>}".toList,
      .index ⟨7, 5, 3, .hexadecimal, [.between 3 3, .between 7 9], none⟩⟩] := by
  -- Zeros in front, white space and the order of the two ends of a range leave no trace.
  have hfirst : SkipRange.WrittenAs (.between (3 : Nat) (3 : Nat)) ⟨[], "3".toList, none⟩ :=
    .single rfl (denotes_decimal 3) (by decide)
  have hsecond : SkipRange.WrittenAs (.between (9 : Nat) (7 : Nat))
      ⟨" ".toList, "9".toList, some "7".toList⟩ :=
    .pair rfl (denotes_decimal 9) (denotes_decimal 7) (by decide) (by decide)
  have hstart : DenotesOr 1 "007".toList 7 := .inl ⟨2, rfl⟩
  have hstep : DenotesOr 1 "05".toList 5 := .inl ⟨1, rfl⟩
  have hwidth : DenotesOr 0 "03".toList 3 := .inl ⟨1, rfl⟩
  have hindex : Index.WrittenAs ⟨_, _, _, .hexadecimal, _, _⟩ _ :=
    .mk (.ungrouped _) hstart (by decide) hstep (by decide) (by decide) hwidth (by decide)
      (.cons hfirst (.cons hsecond .nil)) (by simp)
  have htokens := tokens_of_written.2 _ _ "a-".toList ".txt".toList
    (.index hindex) (by decide) (by decide)
  exact htokens

end Template

end Relabel
