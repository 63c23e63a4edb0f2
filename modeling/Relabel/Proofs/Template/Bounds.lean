import Relabel.Proofs.Template.Carving

/-!
# Numbers in and out of bounds

A form makes a variable just when it is one of the ways in which the variable can be written:
`Form.resolve_eq_ok_iff`. What stands against that is always a number: one that has other than
ASCII digits, one that is too large, or a step that is zero (`Form.exists_writtenAs_iff`).
-/

namespace Relabel

open Text

-- ---------------------------------------------------------------------------
-- Digits and numbers
-- ---------------------------------------------------------------------------

theorem decimal_append_of_all_isDigit (hpos : 0 < n) (h : digits.all Char.isDigit = true) :
    decimal n ++ digits = decimal (Nat.ofDigitChars 10 digits n) := by
  induction digits generalizing n with
  | nil => exact List.append_nil _
  | cons c cs ih =>
    obtain ⟨hc, hcs⟩ : c.isDigit = true ∧ cs.all Char.isDigit = true := by simpa using h
    obtain ⟨hchar, hlt⟩ := digitChar_of_isDigit hc
    have hstep : decimal n ++ [c] = decimal (10 * n + (c.toNat - '0'.toNat)) := by
      have hdigit : Nat.toDigits 10 (c.toNat - '0'.toNat) = [c] := by
        rw [Nat.toDigits_of_lt_base hlt, hchar]
      rw [decimal, decimal, ← hdigit]
      exact Nat.toDigits_append_toDigits (by decide) hpos hlt
    calc decimal n ++ c :: cs
        = (decimal n ++ [c]) ++ cs := by rw [List.append_assoc, List.singleton_append]
      _ = decimal (10 * n + (c.toNat - '0'.toNat)) ++ cs := by rw [hstep]
      _ = decimal (Nat.ofDigitChars 10 cs (10 * n + (c.toNat - '0'.toNat))) := ih (by omega) hcs
      _ = decimal (Nat.ofDigitChars 10 (c :: cs) n) := by rw [Nat.ofDigitChars_cons]

theorem denotes_ofDigitChars (hne : digits ≠ []) (h : digits.all Char.isDigit = true) :
    Denotes digits (Nat.ofDigitChars 10 digits 0) := by
  induction digits with
  | nil => exact absurd rfl hne
  | cons c cs ih =>
    obtain ⟨hc, hcs⟩ : c.isDigit = true ∧ cs.all Char.isDigit = true := by simpa using h
    obtain ⟨hchar, hlt⟩ := digitChar_of_isDigit hc
    -- A zero joins the zeros in front; any other digit begins the numeral itself.
    by_cases hzero : c = '0'
    · subst hzero
      rcases eq_or_ne cs [] with rfl | hne
      · exact ⟨0, rfl⟩
      · obtain ⟨zeros, hzeros⟩ := ih hne hcs
        exact ⟨zeros + 1, congrArg ('0' :: ·) hzeros⟩
    · have hpos : 0 < c.toNat - '0'.toNat := by
        refine Nat.pos_of_ne_zero fun hnone => hzero ?_
        rw [← hchar, hnone]
        rfl
      refine ⟨0, ?_⟩
      have hrest := decimal_append_of_all_isDigit hpos hcs
      rw [decimal, Nat.toDigits_of_lt_base hlt, hchar] at hrest
      rw [Nat.ofDigitChars_cons, Nat.mul_zero, Nat.zero_add]
      exact hrest

theorem denotes_iff : Denotes digits n ↔ Text.number? digits = some n := by
  refine ⟨Denotes.number?, fun h => ?_⟩
  rw [Text.number?, Option.ite_none_right_eq_some] at h
  obtain ⟨⟨hne, hdigits⟩, hvalue⟩ := h
  exact Option.some.inj hvalue ▸ denotes_ofDigitChars hne hdigits

def OutOfBounds (largest : Nat) (digits : Text) : Prop :=
  ¬ digits.all Char.isDigit = true ∨ largest < Nat.ofDigitChars 10 digits 0

theorem exists_denotes_iff (hne : digits ≠ []) :
    (∃ n ≤ largest, Denotes digits n) ↔ ¬ OutOfBounds largest digits := by
  rw [OutOfBounds, not_or, not_not, Nat.not_lt]
  constructor
  · rintro ⟨n, hle, h⟩
    have hvalue := h.number?
    rw [Text.number?, if_pos ⟨hne, h.all_isDigit⟩] at hvalue
    exact ⟨h.all_isDigit, Option.some.inj hvalue ▸ hle⟩
  · rintro ⟨hdigits, hle⟩
    exact ⟨_, hle, denotes_ofDigitChars hne hdigits⟩

theorem exists_denotes_iff_of_some (hne : digits ≠ []) : (∃ n ≤ largest, Denotes digits n) ↔
    ¬ ∃ part ∈ some digits, OutOfBounds largest part := by
  simpa using exists_denotes_iff hne

theorem exists_denotesOr_iff (habsent : absent ≤ largest) :
    (∃ n ≤ largest, DenotesOr absent digits n) ↔ ¬ OutOfBounds largest digits := by
  rcases eq_or_ne digits [] with rfl | hne
  · -- What is left out has no digit that could be wrong, and the default is in bounds.
    have hbounds : ¬ OutOfBounds largest [] := by simp [OutOfBounds]
    exact iff_of_true ⟨absent, habsent, .inr ⟨rfl, rfl⟩⟩ hbounds
  · simp only [DenotesOr, hne, false_and, or_false]
    exact exists_denotes_iff hne

-- ---------------------------------------------------------------------------
-- Forms that make a variable
-- ---------------------------------------------------------------------------

namespace Form

theorem number_eq_ok_iff (hblanks : blanks.all isBlank = true) (h : IsNumeral digits)
    (field : NumberField) :
    number largest field (blanks ++ digits) = .ok n ↔ Denotes digits n ∧ n ≤ largest := by
  refine ⟨fun hok => ?_, fun ⟨hdigits, hle⟩ => number_append_of_denotes hblanks hdigits hle field⟩
  rw [number, trim_append_of_isNumeral hblanks h] at hok
  split at hok
  case h_2 => cases hok
  case h_1 m hm =>
    obtain rfl := Except.ok.inj hok
    obtain ⟨hvalue, hle⟩ := Option.filter_eq_some_iff.mp hm
    exact ⟨denotes_iff.mpr hvalue, of_decide_eq_true hle⟩

private theorem number_eq_ok_iff_of_isNumeral (h : IsNumeral digits) (field : NumberField) :
    number largest field digits = .ok n ↔ Denotes digits n ∧ n ≤ largest :=
  number_eq_ok_iff (show ([] : Text).all isBlank = true from rfl) h field

private theorem numberOr_eq_ok_iff (h : isDigits digits = true) (habsent : absent ≤ largest)
    (field : NumberField) :
    numberOr absent largest field digits = .ok n ↔ DenotesOr absent digits n ∧ n ≤ largest := by
  refine ⟨fun hok => ?_, fun ⟨hdigits, hle⟩ => numberOr_of_denotes hdigits hle field⟩
  rw [numberOr] at hok
  split at hok
  case isTrue hnil =>
    obtain rfl := Except.ok.inj hok
    exact ⟨.inr ⟨hnil, rfl⟩, habsent⟩
  case isFalse hne =>
    exact ((number_eq_ok_iff_of_isNumeral ⟨hne, h⟩ field).mp hok).imp_left .inl

private theorem skipRange_eq_ok_iff {f : SkipForm} {r : SkipRange} (h : f.WellFormed) :
    skipRange f = .ok r ↔ r.WrittenAs f := by
  refine ⟨fun hok => ?_, SkipRange.WrittenAs.skipRange_eq⟩
  obtain ⟨blanks, first, second⟩ := f
  obtain ⟨hblanks, hfirst, hsecond⟩ := h
  cases second with
  | none =>
    obtain ⟨n, hn, hpure⟩ := bind_eq_ok.mp hok
    obtain rfl := Except.ok.inj hpure
    obtain ⟨hdigits, hle⟩ := (number_eq_ok_iff hblanks hfirst _).mp hn
    exact .single hblanks hdigits hle
  | some second =>
    obtain ⟨a, ha, hok⟩ := bind_eq_ok.mp hok
    obtain ⟨b, hb, hpure⟩ := bind_eq_ok.mp hok
    obtain rfl := Except.ok.inj hpure
    obtain ⟨hfirst, hfirstLe⟩ := (number_eq_ok_iff hblanks hfirst _).mp ha
    obtain ⟨hsecond, hsecondLe⟩ := (number_eq_ok_iff_of_isNumeral (hsecond second rfl) _).mp hb
    exact .pair hblanks hfirst hsecond hfirstLe hsecondLe

private theorem groupNumber_eq_ok_iff {group : Option Text} {number : Option Nat}
    (h : ∀ digits ∈ group, IsNumeral digits ∧ start = []) :
    groupNumber group = .ok number ↔ GroupWrittenAs number group start := by
  refine ⟨fun hok => ?_, GroupWrittenAs.groupNumber_eq⟩
  cases group with
  | none =>
    obtain rfl := Except.ok.inj hok
    exact .ungrouped start
  | some digits =>
    obtain ⟨hdigits, rfl⟩ := h digits rfl
    obtain ⟨n, hn, rfl⟩ := map_eq_ok.mp hok
    obtain ⟨hdenotes, hle⟩ := (number_eq_ok_iff_of_isNumeral hdigits _).mp hn
    exact .grouped hdenotes hle

private theorem mapM_skipRange_eq_ok_iff {entries : List SkipForm} {ranges : List SkipRange}
    (h : ∀ entry ∈ entries, entry.WellFormed) :
    entries.mapM skipRange = .ok ranges ↔ List.Forall₂ SkipRange.WrittenAs ranges entries := by
  refine ⟨fun hok => ?_, mapM_skipRange_eq⟩
  rw [mapM_eq_ok] at hok
  induction entries generalizing ranges with
  | nil =>
    obtain rfl := List.map_eq_nil_iff.mp hok.symm
    exact .nil
  | cons entry entries ih =>
    obtain ⟨hentry, hentries⟩ := List.forall_mem_cons.mp h
    cases ranges with
    | nil => simp at hok
    | cons r ranges =>
      obtain ⟨hr, hrest⟩ := List.cons.inj hok
      exact .cons ((skipRange_eq_ok_iff hentry).mp hr) (ih hentries hrest)

private theorem indexOf_eq_ok_iff {f : IndexForm} {i : Index} (h : f.WellFormed) (token : Text) :
    indexOf token f = .ok i ↔ i.WrittenAs f := by
  refine ⟨fun hok => ?_, fun hwritten => hwritten.indexOf_eq token⟩
  obtain ⟨hgroup, hstart, hwidth, hstep, hentries, hfront⟩ := h
  obtain ⟨step, hstepOk, hok⟩ := bind_eq_ok.mp hok
  split at hok
  case isTrue => cases hok
  case isFalse hstepNe =>
    obtain ⟨width, hwidthOk, hok⟩ := bind_eq_ok.mp hok
    split at hok
    case isTrue => cases hok
    case isFalse hwidthLe =>
      obtain ⟨group, hgroupOk, hok⟩ := bind_eq_ok.mp hok
      obtain ⟨start, hstartOk, hok⟩ := bind_eq_ok.mp hok
      obtain ⟨skip, hskipOk, hpure⟩ := bind_eq_ok.mp hok
      obtain rfl := Except.ok.inj hpure
      obtain ⟨hstartDigits, hstartLe⟩ := (numberOr_eq_ok_iff hstart (by decide) _).mp hstartOk
      obtain ⟨hstepDigits, hstepLe⟩ := (numberOr_eq_ok_iff hstep (by decide) _).mp hstepOk
      -- A width is read as a count first; the narrower bound is that of the second check.
      obtain ⟨hwidthDigits, -⟩ := (numberOr_eq_ok_iff hwidth (by decide) _).mp hwidthOk
      exact .mk ((groupNumber_eq_ok_iff hgroup).mp hgroupOk) hstartDigits hstartLe hstepDigits
        (Nat.pos_of_ne_zero hstepNe) hstepLe hwidthDigits (Nat.not_lt.mp hwidthLe)
        ((mapM_skipRange_eq_ok_iff hentries).mp hskipOk) hfront

private theorem picture_writtenAs {item : PictureAttribute} {field : Option DateField}
    (h : item = .captureDate ↔ field.isSome) (short : Bool) (t : Option Transform) :
    Variable.WrittenAs (.picture item field t) (.picture short item field t) := by
  cases field with
  | none => exact .picture short (by simpa using h) t
  | some field =>
    obtain rfl : item = .captureDate := by simpa using h
    exact .captureDate short field t

/-- A form makes just the variables that are written like it. -/
theorem resolve_eq_ok_iff {f : Form} {v : Variable} (h : f.WellFormed) (token : Text) :
    f.resolve token = .ok v ↔ v.WrittenAs f := by
  refine ⟨fun hok => ?_, fun hwritten => hwritten.resolve_eq token⟩
  cases f with
  | stem t => exact Except.ok.inj hok ▸ .stem t
  | extension t => exact Except.ok.inj hok ▸ .extension t
  | parent levels t =>
    obtain ⟨n, hn, hpure⟩ := bind_eq_ok.mp hok
    obtain ⟨hdigits, hle⟩ := (numberOr_eq_ok_iff h (by decide) _).mp hn
    exact Except.ok.inj hpure ▸ .parent hdigits hle t
  | picture short item field t => exact Except.ok.inj hok ▸ picture_writtenAs h short t
  | index f =>
    obtain ⟨i, hi, hpure⟩ := bind_eq_ok.mp hok
    exact Except.ok.inj hpure ▸ .index ((indexOf_eq_ok_iff h token).mp hi)
  | song tag t => exact Except.ok.inj hok ▸ .song tag t
  | digest algorithm t => exact Except.ok.inj hok ▸ .digest algorithm t
  | time item field t => exact Except.ok.inj hok ▸ .time item field t
  | exifTool tag t => exact Except.ok.inj hok ▸ .exifTool h.1 h.2 t
  | capture group format =>
    obtain ⟨number, hnumber, hpure⟩ := bind_eq_ok.mp hok
    have hgroup : ∀ digits ∈ group, IsNumeral digits ∧ ([] : Text) = [] :=
      fun digits hdigits => ⟨h digits hdigits, rfl⟩
    obtain rfl := Except.ok.inj hpure
    cases (groupNumber_eq_ok_iff hgroup).mp hnumber with
    | ungrouped => exact .capture format
    | grouped hdigits hle => exact .captureGroup hdigits hle format
  | column digits t =>
    obtain ⟨n, hn, hpure⟩ := bind_eq_ok.mp hok
    obtain ⟨hdigits, hle⟩ := (number_eq_ok_iff_of_isNumeral h _).mp hn
    exact Except.ok.inj hpure ▸ .column hdigits hle t

end Form

-- ---------------------------------------------------------------------------
-- Bad numbers
-- ---------------------------------------------------------------------------

def SkipForm.HasBadNumber (f : SkipForm) : Prop :=
  OutOfBounds Index.largest.toNat f.first ∨
    ∃ digits ∈ f.second, OutOfBounds Index.largest.toNat digits

inductive IndexForm.HasBadNumber (f : IndexForm) : Prop
  | group (hdigits : digits ∈ f.group) (hbad : OutOfBounds largestCount digits)
  | start (hbad : OutOfBounds Index.largest.toNat f.start)
  | width (hbad : OutOfBounds Index.widest f.width)
  | step (hbad : OutOfBounds Index.largest.toNat f.step)
  | zeroStep (hzero : Text.number? f.step = some 0)
  | skip (hentry : entry ∈ f.skip) (hbad : entry.HasBadNumber)

def Form.HasBadNumber : Form → Prop
  | parent levels _ => OutOfBounds largestCount levels
  | index f => f.HasBadNumber
  | capture group _ => ∃ digits ∈ group, OutOfBounds largestCount digits
  | column digits _ => OutOfBounds largestCount digits
  | _ => False

theorem SkipForm.exists_writtenAs_iff {f : SkipForm} (h : f.WellFormed) :
    (∃ r : SkipRange, r.WrittenAs f) ↔ ¬ f.HasBadNumber := by
  obtain ⟨blanks, first, second⟩ := f
  obtain ⟨hblanks, hfirst, hsecond⟩ := h
  rw [HasBadNumber, not_or, ← exists_denotes_iff hfirst.1]
  cases second with
  | none =>
    constructor
    · rintro ⟨r, hr⟩
      cases hr with
      | single _ hdigits hle => exact ⟨⟨_, hle, hdigits⟩, by simp⟩
    · rintro ⟨⟨n, hle, hdigits⟩, -⟩
      exact ⟨_, .single hblanks hdigits hle⟩
  | some second =>
    rw [← exists_denotes_iff_of_some (hsecond second rfl).1]
    constructor
    · rintro ⟨r, hr⟩
      cases hr with
      | pair _ hfirst hsecond hfirstLe hsecondLe =>
        exact ⟨⟨_, hfirstLe, hfirst⟩, _, hsecondLe, hsecond⟩
    · rintro ⟨⟨a, hfirstLe, hfirst⟩, b, hsecondLe, hsecond⟩
      exact ⟨_, .pair hblanks hfirst hsecond hfirstLe hsecondLe⟩

theorem exists_groupWrittenAs_iff {group : Option Text}
    (h : ∀ digits ∈ group, IsNumeral digits ∧ start = []) :
    (∃ number, GroupWrittenAs number group start) ↔
      ¬ ∃ digits ∈ group, OutOfBounds largestCount digits := by
  cases group with
  | none => exact iff_of_true ⟨none, .ungrouped start⟩ (by simp)
  | some digits =>
    obtain ⟨hdigits, rfl⟩ := h digits rfl
    rw [← exists_denotes_iff_of_some hdigits.1]
    constructor
    · rintro ⟨number, hnumber⟩
      cases hnumber with
      | grouped hdenotes hle => exact ⟨_, hle, hdenotes⟩
    · rintro ⟨n, hle, hdenotes⟩
      exact ⟨some n, .grouped hdenotes hle⟩

theorem exists_forall₂_writtenAs {entries : List SkipForm}
    (h : ∀ entry ∈ entries, ∃ r : SkipRange, r.WrittenAs entry) :
    ∃ ranges, List.Forall₂ SkipRange.WrittenAs ranges entries := by
  induction entries with
  | nil => exact ⟨[], .nil⟩
  | cons entry entries ih =>
    obtain ⟨⟨r, hr⟩, hentries⟩ := List.forall_mem_cons.mp h
    obtain ⟨ranges, hranges⟩ := ih hentries
    exact ⟨r :: ranges, .cons hr hranges⟩

theorem IndexForm.exists_writtenAs_iff {f : IndexForm} (h : f.WellFormed) :
    (∃ i : Index, i.WrittenAs f) ↔ ¬ f.HasBadNumber := by
  obtain ⟨hgroup, hstart, hwidth, hstep, hentries, hfront⟩ := h
  constructor
  · rintro ⟨i, hi⟩ hbad
    obtain ⟨hgroupOk, hstartOk, hstartLe, hstepOk, hstepPos, hstepLe, hwidthOk, hwidthLe, hskipOk,
      -⟩ := hi
    cases hbad with
    | group hdigits hbad =>
      exact (exists_groupWrittenAs_iff hgroup).mp ⟨_, hgroupOk⟩ ⟨_, hdigits, hbad⟩
    | start hbad => exact (exists_denotesOr_iff (by decide)).mp ⟨_, hstartLe, hstartOk⟩ hbad
    | width hbad => exact (exists_denotesOr_iff (by decide)).mp ⟨_, hwidthLe, hwidthOk⟩ hbad
    | step hbad => exact (exists_denotesOr_iff (by decide)).mp ⟨_, hstepLe, hstepOk⟩ hbad
    | zeroStep hzero =>
      rcases hstepOk with hstepOk | ⟨hnil, -⟩
      · have hsame := Option.some.inj (hstepOk.number?.symm.trans hzero)
        omega
      · exact (denotes_iff.mpr hzero).ne_nil hnil
    | skip hentry hbad =>
      obtain ⟨r, -, hr⟩ := Template.exists_of_mem_right hskipOk hentry
      exact (SkipForm.exists_writtenAs_iff (hentries _ hentry)).mp ⟨r, hr⟩ hbad
  · intro hgood
    obtain ⟨group, hgroupOk⟩ := (exists_groupWrittenAs_iff hgroup).mpr fun ⟨_, hdigits, hbad⟩ =>
      hgood (.group hdigits hbad)
    obtain ⟨start, hstartLe, hstartOk⟩ :=
      (exists_denotesOr_iff (show 1 ≤ Index.largest.toNat by decide)).mpr (hgood ∘ .start)
    obtain ⟨width, hwidthLe, hwidthOk⟩ :=
      (exists_denotesOr_iff (show 0 ≤ Index.widest by decide)).mpr (hgood ∘ .width)
    obtain ⟨step, hstepLe, hstepOk⟩ :=
      (exists_denotesOr_iff (show 1 ≤ Index.largest.toNat by decide)).mpr (hgood ∘ .step)
    -- A step of zero is the one number that is in bounds and still bad.
    have hstepPos : 0 < step := by
      refine Nat.pos_of_ne_zero fun hzero => ?_
      subst hzero
      rcases hstepOk with hstepOk | ⟨-, hone⟩
      · exact hgood (.zeroStep hstepOk.number?)
      · cases hone
    obtain ⟨ranges, hskipOk⟩ := exists_forall₂_writtenAs fun entry hentry =>
      (SkipForm.exists_writtenAs_iff (hentries entry hentry)).mpr (hgood ∘ .skip hentry)
    exact ⟨_, .mk hgroupOk hstartOk hstartLe hstepOk hstepPos hstepLe hwidthOk hwidthLe hskipOk
      hfront⟩

theorem Form.exists_writtenAs_iff {f : Form} (h : f.WellFormed) :
    (∃ v : Variable, v.WrittenAs f) ↔ ¬ f.HasBadNumber := by
  cases f with
  | stem t => exact iff_of_true ⟨_, .stem t⟩ not_false
  | extension t => exact iff_of_true ⟨_, .extension t⟩ not_false
  | parent levels t =>
    rw [HasBadNumber, ← exists_denotesOr_iff (show 1 ≤ largestCount by decide)]
    constructor
    · rintro ⟨v, hv⟩
      cases hv with
      | parent hdigits hle => exact ⟨_, hle, hdigits⟩
    · rintro ⟨n, hle, hdigits⟩
      exact ⟨_, .parent hdigits hle t⟩
  | picture short item field t => exact iff_of_true ⟨_, picture_writtenAs h short t⟩ not_false
  | index f =>
    rw [HasBadNumber, ← IndexForm.exists_writtenAs_iff h]
    constructor
    · rintro ⟨v, hv⟩
      cases hv with
      | index hi => exact ⟨_, hi⟩
    · rintro ⟨i, hi⟩
      exact ⟨_, .index hi⟩
  | song tag t => exact iff_of_true ⟨_, .song tag t⟩ not_false
  | digest algorithm t => exact iff_of_true ⟨_, .digest algorithm t⟩ not_false
  | time item field t => exact iff_of_true ⟨_, .time item field t⟩ not_false
  | exifTool tag t => exact iff_of_true ⟨_, .exifTool h.1 h.2 t⟩ not_false
  | capture group format =>
    have hgroup : ∀ digits ∈ group, IsNumeral digits ∧ ([] : Text) = [] :=
      fun digits hdigits => ⟨h digits hdigits, rfl⟩
    rw [HasBadNumber, ← exists_groupWrittenAs_iff hgroup]
    constructor
    · rintro ⟨v, hv⟩
      cases hv with
      | capture => exact ⟨none, .ungrouped []⟩
      | captureGroup hdigits hle => exact ⟨_, .grouped hdigits hle⟩
    · rintro ⟨number, hnumber⟩
      cases hnumber with
      | ungrouped => exact ⟨_, .capture format⟩
      | grouped hdigits hle => exact ⟨_, .captureGroup hdigits hle format⟩
  | column digits t =>
    rw [HasBadNumber, ← exists_denotes_iff h.1]
    constructor
    · rintro ⟨v, hv⟩
      cases hv with
      | column hdigits hle => exact ⟨_, hle, hdigits⟩
    · rintro ⟨n, hle, hdigits⟩
      exact ⟨_, .column hdigits hle t⟩

end Relabel
