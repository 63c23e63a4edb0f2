import Mathlib.Tactic.ByContra
import Relabel.Proofs.Time.Calendar
import Relabel.Time.Zone

/-!
# Turns of the clock

Where the turns of a year come in the order of their months, each within its year and not before the
clock has run as far as it was turned before (`Daylight.Regular`), a moment has the offset of the
stretch between two turns in which it lies, whichever year that stretch is counted to
(`offsetAt_of_forwardFirst`, `offsetAt_of_backFirst`).
-/

namespace Relabel

def clockYear (second : Int) : Int := (Date.ofDayNumber (second / 86400)).year

theorem clockYear_eq_iff : clockYear second = year ↔
    Date.newYear year * 86400 ≤ second ∧ second < Date.newYear (year + 1) * 86400 := by
  rw [clockYear, Date.year_ofDayNumber_eq_iff]
  omega

def yearsAround (unix : Int) : List Int := [clockYear unix - 1, clockYear unix, clockYear unix + 1]

private theorem mem_yearsAround {unix : Int} (h₀ : Date.newYear year * 86400 < unix + 86400)
    (h₁ : unix < Date.newYear (year + 1) * 86400 + 86400) : year ∈ yearsAround unix := by
  obtain ⟨y, hy⟩ : ∃ y, clockYear unix = y := ⟨_, rfl⟩
  obtain ⟨hbegin, hend⟩ := clockYear_eq_iff.mp hy
  have hlate : year ≤ y + 1 := by
    by_contra hlt
    have := Date.newYear_add_le (y + 1)
    have := Date.newYear_le (show y + 1 + 1 ≤ year by omega)
    omega
  have hearly : y ≤ year + 1 := by
    by_contra hlt
    have := Date.newYear_add_le (year + 1)
    have := Date.newYear_le (show year + 1 + 1 ≤ y by omega)
    omega
  simp only [yearsAround, hy, List.mem_cons, List.not_mem_nil, or_false]
  omega

-- ---------------------------------------------------------------------------
-- The days of the turns
-- ---------------------------------------------------------------------------

theorem YearlyDay.dayNumber_between (day : YearlyDay) (year : Int) :
    (1 ≤ day.monthIn year ∧ day.monthIn year ≤ 12) ∧
      (Date.mk year (day.monthIn year) 1).dayNumber ≤ day.dayNumber year ∧
      day.dayNumber year ≤ (Date.mk year (day.monthIn year) 1).dayNumber + 31 := by
  cases day with
  | weekday month week onDay proper =>
    obtain ⟨hmonth, hweek, -⟩ := proper
    have hlength := Date.daysInMonth_le year month
    refine ⟨hmonth, ?_⟩
    simp only [monthIn, dayNumber]
    split_ifs <;> omega
  | ofCommonYear n proper =>
    obtain ⟨hmonth₁, hmonth₁₂, hday₁, hday⟩ := Date.ofDayNumber_proper (n - 1)
    have hlength := Date.daysInMonth_le (Date.ofDayNumber (n - 1)).year (Date.ofDayNumber (n - 1)).month
    refine ⟨⟨hmonth₁, hmonth₁₂⟩, ?_⟩
    simp only [monthIn, dayNumber, Date.dayNumber_eq]
    omega
  | ofYear n proper =>
    obtain ⟨m, hm⟩ : ∃ m, m = Date.newYear year + n := ⟨_, rfl⟩
    have hday : (ofYear n proper).dayNumber year = m := hm.symm
    have hmonth : (ofYear n proper).monthIn year =
        if (Date.ofDayNumber m).year = year then (Date.ofDayNumber m).month else 12 := by
      rw [hm]
      rfl
    rw [hday, hmonth]
    split_ifs with hyear
    · obtain ⟨hmonth₁, hmonth₁₂, hday₁, hday⟩ := Date.ofDayNumber_proper m
      have hlength := Date.daysInMonth_le (Date.ofDayNumber m).year (Date.ofDayNumber m).month
      have hnumber := Date.dayNumber_ofDayNumber m
      rw [Date.dayNumber_eq, hyear] at hnumber
      refine ⟨⟨hmonth₁, hmonth₁₂⟩, ?_⟩
      simp only [Date.dayNumber_eq]
      omega
    · -- Only the day behind the last one of a common year lies in another year.
      have hout := mt Date.year_ofDayNumber_eq_iff.mpr hyear
      have hnext := Date.newYear_add_le year
      have hdecember := Date.dayNumber_december year
      omega

theorem YearlyTurn.secondsIn_between (turn : YearlyTurn) (year : Int) :
    (Date.mk year (turn.day.monthIn year) 1).dayNumber * 86400 ≤ turn.secondsIn year ∧
      turn.secondsIn year ≤ ((Date.mk year (turn.day.monthIn year) 1).dayNumber + 33) * 86400 := by
  have htime := turn.time.isLt
  obtain ⟨-, hfirst, hlast⟩ := turn.day.dayNumber_between year
  rw [secondsIn]
  omega

theorem YearlyTurn.newYear_le_secondsIn (turn : YearlyTurn) (year : Int) :
    Date.newYear year * 86400 ≤ turn.secondsIn year := by
  obtain ⟨hmonth, -⟩ := turn.day.dayNumber_between year
  have hfirst := (turn.secondsIn_between year).1
  have := Date.newYear_le_month hmonth.1 hmonth.2 year
  omega

-- ---------------------------------------------------------------------------
-- Regular turns
-- ---------------------------------------------------------------------------

namespace Daylight

def shift (d : Daylight) : Int := d.high - d.low

def forwardAt (d : Daylight) (year : Int) : Int := d.forward.secondsIn year - d.low

def backAt (d : Daylight) (year : Int) : Int := d.back.secondsIn year - d.high

/-- Two turns of every year, the second one by the lower offset before the year is over. From each of
them to the next it is at least as long as the clock is turned. -/
structure TurnsApart (d : Daylight) (first second : Int → Int) : Prop where
  firstLasts : ∀ year, first year + d.shift ≤ second year
  secondLasts : ∀ year, second year + d.shift ≤ first (year + 1)
  endsInYear : ∀ year, second year + d.low ≤ Date.newYear (year + 1) * 86400

inductive Regular (d : Daylight) : Prop
  | level (same : d.standard = d.daylight)
  | forwardFirst (months : ∀ year, d.PutsForwardFirst year)
      (apart : d.TurnsApart d.forwardAt d.backAt)
  | backFirst (months : ∀ year, ¬ d.PutsForwardFirst year)
      (apart : d.TurnsApart d.backAt d.forwardAt)

variable {d : Daylight}

theorem low_add_shift (d : Daylight) : d.low + d.shift = d.high := by
  rw [shift]
  omega

theorem shift_pos (h : d.standard ≠ d.daylight) : 0 < d.shift := by
  rw [shift, high, low]
  omega

theorem low_bounds (d : Daylight) : BelowDay d.low := by
  obtain ⟨hstandard, hdaylight⟩ := d.belowDay
  rw [low]
  omega

theorem high_bounds (d : Daylight) : BelowDay d.high := by
  obtain ⟨hstandard, hdaylight⟩ := d.belowDay
  rw [high]
  omega

theorem newYear_le_forwardAt (d : Daylight) (year : Int) :
    Date.newYear year * 86400 ≤ d.forwardAt year + d.low := by
  rw [forwardAt, Int.sub_add_cancel]
  exact d.forward.newYear_le_secondsIn year

theorem newYear_le_backAt (d : Daylight) (year : Int) :
    Date.newYear year * 86400 ≤ d.backAt year + d.high := by
  rw [backAt, Int.sub_add_cancel]
  exact d.back.newYear_le_secondsIn year

section TurnsApart

variable {first second : Int → Int} (h : d.TurnsApart first second)
include h

theorem TurnsApart.first_lt_second (hne : d.standard ≠ d.daylight) (year : Int) :
    first year < second year := by
  have := h.firstLasts year
  have := shift_pos hne
  omega

theorem TurnsApart.later (hne : d.standard ≠ d.daylight) {year later : Int} (hlt : year < later) :
    second year + d.shift ≤ first later := by
  -- Induction on the years in between, of which each has both of its turns.
  obtain ⟨n, rfl⟩ : ∃ n : Nat, later = year + 1 + n := ⟨(later - year - 1).toNat, by omega⟩
  induction n with
  | zero => simpa using h.secondLasts year
  | succ n ih =>
    have hbefore := ih (by omega)
    have hlasts := h.firstLasts (year + 1 + n)
    have hnext := h.secondLasts (year + 1 + n)
    have := shift_pos hne
    rw [Int.natCast_succ, ← Int.add_assoc]
    omega

/-- Two moments that lie no further apart than the clock is turned are not on two sides of a whole
stretch of time. -/
theorem TurnsApart.same_year (hne : d.standard ≠ d.daylight) {unix later : Int}
    (hnear : later = unix + d.shift) (hunix : first year ≤ unix ∧ unix < second year)
    (hlater : first year' ≤ later ∧ later < second year') : year' = year := by
  have := shift_pos hne
  rcases Int.lt_trichotomy year' year with hlt | heq | hgt
  · have := h.later hne hlt
    omega
  · exact heq
  · have := h.later hne hgt
    omega

theorem TurnsApart.exists_yearsAround_iff
    (hfirst : ∀ year, Date.newYear year * 86400 ≤ first year + d.high) (unix : Int) :
    (∃ year ∈ yearsAround unix, first year ≤ unix ∧ unix < second year) ↔
      ∃ year, first year ≤ unix ∧ unix < second year := by
  constructor
  case mp => rintro ⟨year, -, hunix⟩; exact ⟨year, hunix⟩
  case mpr =>
    rintro ⟨year, hunix⟩
    have hbegins := hfirst year
    have hends := h.endsInYear year
    have hlow := d.low_bounds
    have hhigh := d.high_bounds
    exact ⟨year, mem_yearsAround (by omega) (by omega), hunix⟩

end TurnsApart

-- ---------------------------------------------------------------------------
-- The offset in force
-- ---------------------------------------------------------------------------

private theorem turns_ahead (h : d.standard < d.daylight) :
    (d.low = d.standard ∧ d.high = d.daylight) ∧ d.forward = d.begins ∧ d.back = d.ends :=
  ⟨⟨Int.min_eq_left (Int.le_of_lt h), Int.max_eq_right (Int.le_of_lt h)⟩, if_pos h, if_pos h⟩

private theorem turns_behind (h : ¬ d.standard < d.daylight) :
    (d.low = d.daylight ∧ d.high = d.standard) ∧ d.forward = d.ends ∧ d.back = d.begins :=
  ⟨⟨Int.min_eq_right (Int.not_lt.mp h), Int.max_eq_left (Int.not_lt.mp h)⟩, if_neg h, if_neg h⟩

private theorem offsetAt_of_forwardAt_lt (h : d.forwardAt (clockYear unix) < d.backAt (clockYear unix)) :
    d.offsetAt unix =
      if ∃ year ∈ yearsAround unix, d.forwardAt year ≤ unix ∧ unix < d.backAt year then d.high
      else d.low := by
  by_cases hsign : d.standard < d.daylight
  · obtain ⟨⟨hlow, hhigh⟩, hforward, hback⟩ := turns_ahead hsign
    simp only [forwardAt, backAt, hlow, hhigh, hforward, hback] at h ⊢
    exact if_pos (Int.le_of_lt h)
  · obtain ⟨⟨hlow, hhigh⟩, hforward, hback⟩ := turns_behind hsign
    simp only [forwardAt, backAt, hlow, hhigh, hforward, hback] at h ⊢
    exact if_neg (Int.not_le.mpr h)

private theorem offsetAt_of_backAt_lt (h : d.backAt (clockYear unix) < d.forwardAt (clockYear unix)) :
    d.offsetAt unix =
      if ∃ year ∈ yearsAround unix, d.backAt year ≤ unix ∧ unix < d.forwardAt year then d.low
      else d.high := by
  by_cases hsign : d.standard < d.daylight
  · obtain ⟨⟨hlow, hhigh⟩, hforward, hback⟩ := turns_ahead hsign
    simp only [forwardAt, backAt, hlow, hhigh, hforward, hback] at h ⊢
    exact if_neg (Int.not_le.mpr h)
  · obtain ⟨⟨hlow, hhigh⟩, hforward, hback⟩ := turns_behind hsign
    simp only [forwardAt, backAt, hlow, hhigh, hforward, hback] at h ⊢
    exact if_pos (Int.le_of_lt h)

/-- Where the clock is first put forward in a year, the higher offset is in force from then on until
it is put back. -/
theorem offsetAt_of_forwardFirst (hne : d.standard ≠ d.daylight)
    (h : d.TurnsApart d.forwardAt d.backAt) (unix : Int) :
    (∃ year, d.forwardAt year ≤ unix ∧ unix < d.backAt year) ∧ d.offsetAt unix = d.high ∨
      (∀ year, ¬ (d.forwardAt year ≤ unix ∧ unix < d.backAt year)) ∧ d.offsetAt unix = d.low := by
  have hfirst (year : Int) : Date.newYear year * 86400 ≤ d.forwardAt year + d.high := by
    have := d.newYear_le_forwardAt year
    have := shift_pos hne
    have := d.low_add_shift
    omega
  rw [offsetAt_of_forwardAt_lt (h.first_lt_second hne _), ← h.exists_yearsAround_iff hfirst]
  split_ifs with hbetween
  · exact .inl ⟨hbetween, rfl⟩
  · rw [h.exists_yearsAround_iff hfirst, not_exists] at hbetween
    exact .inr ⟨hbetween, rfl⟩

/-- Where the clock is first put back in a year, the lower offset is in force from then on until it
is put forward. -/
theorem offsetAt_of_backFirst (hne : d.standard ≠ d.daylight)
    (h : d.TurnsApart d.backAt d.forwardAt) (unix : Int) :
    (∃ year, d.backAt year ≤ unix ∧ unix < d.forwardAt year) ∧ d.offsetAt unix = d.low ∨
      (∀ year, ¬ (d.backAt year ≤ unix ∧ unix < d.forwardAt year)) ∧ d.offsetAt unix = d.high := by
  rw [offsetAt_of_backAt_lt (h.first_lt_second hne _),
    ← h.exists_yearsAround_iff d.newYear_le_backAt]
  split_ifs with hbetween
  · exact .inl ⟨hbetween, rfl⟩
  · rw [h.exists_yearsAround_iff d.newYear_le_backAt, not_exists] at hbetween
    exact .inr ⟨hbetween, rfl⟩

theorem offsetAt_mem (d : Daylight) (unix : Int) : d.offsetAt unix ∈ [d.standard, d.daylight] := by
  rw [offsetAt]
  split_ifs <;> simp

-- ---------------------------------------------------------------------------
-- Turns in two months
-- ---------------------------------------------------------------------------

private theorem turnsApart_of_months {first second : YearlyTurn} {firstMonth secondMonth : Nat}
    (hfirst : ∀ year, first.day.monthIn year = firstMonth)
    (hsecond : ∀ year, second.day.monthIn year = secondMonth)
    (hmonths : firstMonth + 2 ≤ secondMonth ∧ secondMonth ≤ 11) (hshift : d.shift ≤ 86400)
    (ho₁ : d.low ≤ offset₁ ∧ offset₁ ≤ d.high) (ho₂ : d.low ≤ offset₂ ∧ offset₂ ≤ d.high) :
    d.TurnsApart (first.secondsIn · - offset₁) (second.secondsIn · - offset₂) := by
  have hdays (year : Int) :
      (Date.mk year firstMonth 1).dayNumber + 59 ≤ (Date.mk year secondMonth 1).dayNumber ∧
      (Date.mk year secondMonth 1).dayNumber + 61 ≤ Date.newYear (year + 1) := by
    obtain ⟨⟨hone, -⟩, -⟩ := first.day.dayNumber_between year
    rw [hfirst] at hone
    have hmarch : Date.march (year - 1) + 365 ≤ Date.march year := by
      simp only [Date.march]
      omega
    simp only [Date.newYear_eq, Date.dayNumber_eq, Int.add_sub_cancel]
    split_ifs <;> omega
  have hturn₁ (year : Int) := hfirst year ▸ first.secondsIn_between year
  have hturn₂ (year : Int) := hsecond year ▸ second.secondsIn_between year
  have hshifted := d.low_add_shift
  constructor
  case firstLasts =>
    intro year
    have := hdays year
    have := hturn₁ year
    have := hturn₂ year
    omega
  case secondLasts =>
    intro year
    have := hdays year
    have := hturn₂ year
    have := first.newYear_le_secondsIn (year + 1)
    omega
  case endsInYear =>
    intro year
    have := hdays year
    have := hturn₂ year
    omega

private theorem putsForwardFirst_iff
    (hmonths : d.forward.day.monthIn year ≠ d.back.day.monthIn year) :
    d.PutsForwardFirst year ↔ d.forward.day.monthIn year < d.back.day.monthIn year := by
  rw [PutsForwardFirst]
  by_cases hsign : d.standard < d.daylight
  · obtain ⟨-, hforward, hback⟩ := turns_ahead hsign
    rw [hforward, hback]
    exact iff_true_right hsign
  · obtain ⟨-, hforward, hback⟩ := turns_behind hsign
    rw [hforward, hback] at hmonths ⊢
    rw [iff_false_right hsign]
    omega

/-- Turns by at most a day in two months before December with another one between them. -/
theorem regular_of_months {forwardMonth backMonth : Nat}
    (hforward : ∀ year, d.forward.day.monthIn year = forwardMonth)
    (hback : ∀ year, d.back.day.monthIn year = backMonth)
    (hmonths : forwardMonth + 2 ≤ backMonth ∧ backMonth ≤ 11 ∨
      backMonth + 2 ≤ forwardMonth ∧ forwardMonth ≤ 11) (hshift : d.shift ≤ 86400) : d.Regular := by
  by_cases hne : d.standard = d.daylight
  · exact .level hne
  have hpos := shift_pos hne
  have hshifted := d.low_add_shift
  have hiff (year : Int) : d.PutsForwardFirst year ↔ forwardMonth < backMonth := by
    have h := @putsForwardFirst_iff d year
    rw [hforward, hback] at h
    exact h (by omega)
  rcases hmonths with hmonths | hmonths
  · refine .forwardFirst (fun year => (hiff year).mpr (by omega)) ?_
    exact turnsApart_of_months hforward hback hmonths hshift (by omega) (by omega)
  · refine .backFirst (fun year => mt (hiff year).mp (by omega)) ?_
    exact turnsApart_of_months hback hforward hmonths hshift (by omega) (by omega)

end Daylight

end Relabel
