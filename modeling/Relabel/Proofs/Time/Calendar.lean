import Mathlib.Tactic.SplitIfs
import Relabel.Time.Date

/-!
# Days and their numbers

A year from March is its first day and the days behind it, of which only a leap year has a 366th, so
`ofDayNumber` gives a date of the calendar and `dayNumber` gives its number back. A year of the
calendar is then a stretch of day numbers from one new year to the next (`year_ofDayNumber_eq_iff`).
-/

namespace Relabel.Date

def Proper (d : Date) : Prop :=
  1 ≤ d.month ∧ d.month ≤ 12 ∧ 1 ≤ d.day ∧ d.day ≤ daysInMonth d.year d.month

/-- The number of the first of March. -/
def march (year : Int) : Int := 365 * year + year / 4 - year / 100 + year / 400 - 719468

def ofMarch (year : Int) (dayOfYear : Nat) : Date :=
  let monthFromMarch := (5 * dayOfYear + 2) / 153
  let month := if monthFromMarch < 10 then monthFromMarch + 3 else monthFromMarch - 9
  ⟨if month ≤ 2 then year + 1 else year, month,
    dayOfYear - (153 * monthFromMarch + 2) / 5 + 1⟩

private theorem isLeapYear_add_eras (year era : Int) : isLeapYear (year + era * 400) = isLeapYear year := by
  have h₄ : (year + era * 400) % 4 = year % 4 := by omega
  have h₁₀₀ : (year + era * 400) % 100 = year % 100 := by omega
  have h₄₀₀ : (year + era * 400) % 400 = year % 400 := by omega
  rw [isLeapYear, isLeapYear, h₄, h₁₀₀, h₄₀₀]

private theorem march_add_eras (year era : Int) : march (year + era * 400) = march year + era * 146097 := by
  simp only [march]; omega

/-- A day of an era falls in one of its centuries, in one of their fours of years and in one of
these years, where only the last may have a day more. -/
private theorem exists_cycles {e : Int} (h₀ : 0 ≤ e) (h₁ : e < 146097) : ∃ a b c k : Int,
    e = 36524 * a + 1461 * b + 365 * c + k ∧ 0 ≤ a ∧ a ≤ 3 ∧ 0 ≤ b ∧ b ≤ 24 ∧ 0 ≤ c ∧ c ≤ 3 ∧
    0 ≤ k ∧ (k ≤ 364 ∨ k = 365 ∧ c = 3 ∧ (b ≤ 23 ∨ a = 3)) := by
  -- The last day of an era would begin a fifth century, and that of four years a fifth year.
  obtain ⟨a, ha⟩ : ∃ a, a = min 3 (e / 36524) := ⟨_, rfl⟩
  obtain ⟨r, hr⟩ : ∃ r, r = e - 36524 * a := ⟨_, rfl⟩
  obtain ⟨b, hb⟩ : ∃ b, b = r / 1461 := ⟨_, rfl⟩
  obtain ⟨q, hq⟩ : ∃ q, q = r - 1461 * b := ⟨_, rfl⟩
  refine ⟨a, b, min 3 (q / 365), q - 365 * min 3 (q / 365), ?_⟩
  omega

theorem exists_yearOfEra {e : Int} (h₀ : 0 ≤ e) (h₁ : e < 146097) : ∃ (y : Int) (k : Nat),
    (e - e / 1460 + e / 36524 - e / 146096) / 365 = y ∧ 0 ≤ y ∧ y < 400 ∧
      e = 365 * y + y / 4 - y / 100 + k ∧ k ≤ 365 ∧ (k = 365 → isLeapYear (y + 1) = true) := by
  obtain ⟨a, b, c, k, he, ha₀, ha, hb₀, hb, hc₀, hc, hk₀, hk⟩ := exists_cycles h₀ h₁
  -- The closed formula takes one day off for each leap day that has gone by.
  have hcentury : e / 36524 = a ∨ e / 36524 = 4 ∧ e = 146096 := by omega
  have hlast : e / 146096 = 0 ∧ e < 146096 ∨ e / 146096 = 1 ∧ e = 146096 := by omega
  have h₄ : (100 * a + 4 * b + c) / 4 = 25 * a + b := by omega
  have h₁₀₀ : (100 * a + 4 * b + c) / 100 = a := by omega
  refine ⟨100 * a + 4 * b + c, k.toNat, by omega, by omega, by omega, by omega, by omega, ?_⟩
  intro h
  obtain ⟨rfl, hab⟩ : c = 3 ∧ (b ≤ 23 ∨ a = 3) := by omega
  have h₄ : (100 * a + 4 * b + 3 + 1) % 4 = 0 := by omega
  have h₁₀₀ : (100 * a + 4 * b + 3 + 1) % 100 ≠ 0 ∨ (100 * a + 4 * b + 3 + 1) % 400 = 0 := by
    omega
  simpa [isLeapYear, h₄] using h₁₀₀

theorem ofDayNumber_eq_ofMarch (n : Int) : ∃ (year : Int) (k : Nat),
    n = march year + k ∧ k ≤ 365 ∧ (k = 365 → isLeapYear (year + 1) = true) ∧
      ofDayNumber n = ofMarch year k := by
  obtain ⟨y, k, hy, hy₀, hy₁, he, hk, hleap⟩ :=
    exists_yearOfEra (e := (n + 719468) % 146097) (by omega) (by omega)
  refine ⟨y + (n + 719468) / 146097 * 400, k, ?_, hk, ?_, ?_⟩
  · rw [march_add_eras, march]
    omega
  · rw [Int.add_right_comm, isLeapYear_add_eras]
    exact hleap
  · have hday : ((n + 719468) % 146097 - (365 * y + y / 4 - y / 100)).toNat = k := by omega
    simp only [ofDayNumber, ofMarch, hy, hday]

theorem ofMarch_proper (year : Int) {k : Nat} (hk : k ≤ 365)
    (hleap : k = 365 → isLeapYear (year + 1) = true) : (ofMarch year k).Proper := by
  obtain ⟨m, hm⟩ : ∃ m, m = (5 * k + 2) / 153 := ⟨_, rfl⟩
  have hm' : m ≤ 11 := by omega
  simp only [Proper, ofMarch, daysInMonth, ← hm]
  -- From March on ten months stay in the year; January and February belong to the next one.
  by_cases h : m < 10
  · simp only [h, if_true]
    split_ifs <;> omega
  · have hm₂ : m - 9 ≤ 2 := by omega
    simp only [h, hm₂, if_true, if_false]
    have hfeb : k ≤ 364 ∨ isLeapYear (year + 1) = true := by
      rcases Nat.lt_or_ge k 365 with h | h
      · exact .inl (by omega)
      · exact .inr (hleap (by omega))
    rcases hfeb with hk | hleap
    · split_ifs <;> omega
    · simp only [hleap, if_true]
      split_ifs <;> omega

theorem dayNumber_eq (d : Date) : d.dayNumber = march (if d.month ≤ 2 then d.year - 1 else d.year)
    + ((153 * ((d.month + 9) % 12) + 2) / 5 + d.day : Nat) - 1 := by
  simp only [dayNumber, march]
  omega

theorem dayNumber_ofMarch (year : Int) {k : Nat} (hk : k ≤ 365) :
    (ofMarch year k).dayNumber = march year + k := by
  obtain ⟨m, hm⟩ : ∃ m, m = (5 * k + 2) / 153 := ⟨_, rfl⟩
  have hm' : m ≤ 11 := by omega
  rw [dayNumber_eq]
  by_cases h : m < 10
  · have hm₂ : ¬ m + 3 ≤ 2 := by omega
    have hback : (m + 3 + 9) % 12 = m := by omega
    simp only [ofMarch, ← hm, h, hm₂, hback, if_true, if_false]
    omega
  · have hm₂ : m - 9 ≤ 2 := by omega
    have hback : (m - 9 + 9) % 12 = m := by omega
    simp only [ofMarch, ← hm, h, hm₂, hback, if_true, if_false, Int.add_sub_cancel]
    omega

theorem dayNumber_ofDayNumber (n : Int) : (ofDayNumber n).dayNumber = n := by
  obtain ⟨year, k, hn, hk, -, h⟩ := ofDayNumber_eq_ofMarch n
  rw [h, dayNumber_ofMarch year hk, hn]

theorem ofDayNumber_proper (n : Int) : (ofDayNumber n).Proper := by
  obtain ⟨year, k, -, hk, hleap, h⟩ := ofDayNumber_eq_ofMarch n
  rw [h]
  exact ofMarch_proper year hk hleap

def newYear (year : Int) : Int := (Date.mk year 1 1).dayNumber

theorem newYear_eq (year : Int) : newYear year = march (year - 1) + 306 := by
  rw [newYear, dayNumber_eq]
  simp
  omega

theorem newYear_le {year later : Int} (h : year ≤ later) : newYear year ≤ newYear later := by
  simp only [newYear_eq, march]
  omega

theorem newYear_add_le (year : Int) : newYear year + 365 ≤ newYear (year + 1) := by
  simp only [newYear_eq, march]
  omega

theorem newYear_le_month {month : Nat} (h₁ : 1 ≤ month) (h₁₂ : month ≤ 12) (year : Int) :
    newYear year ≤ (Date.mk year month 1).dayNumber := by
  have hmarch : march (year - 1) + 365 ≤ march year := by simp only [march]; omega
  simp only [newYear_eq, dayNumber_eq]
  split_ifs <;> omega

theorem dayNumber_december (year : Int) :
    (Date.mk year 12 1).dayNumber + 31 = newYear (year + 1) := by
  simp only [newYear_eq, dayNumber_eq, Int.add_sub_cancel, Nat.reduceLeDiff, if_false]
  omega

theorem daysInMonth_le (year : Int) (month : Nat) : daysInMonth year month ≤ 31 := by
  simp only [daysInMonth]
  split_ifs <;> omega

theorem Proper.dayNumber_between {d : Date} (h : d.Proper) :
    newYear d.year ≤ d.dayNumber ∧ d.dayNumber < newYear (d.year + 1) := by
  obtain ⟨hm₁, hm₁₂, hd₁, hd⟩ := h
  have := daysInMonth_le d.year d.month
  rw [newYear_eq, newYear_eq, Int.add_sub_cancel, dayNumber_eq]
  have hmarch : march (d.year - 1) + 365 ≤ march d.year := by simp only [march]; omega
  split_ifs <;> omega

theorem year_ofDayNumber_eq_iff {n year : Int} :
    (ofDayNumber n).year = year ↔ newYear year ≤ n ∧ n < newYear (year + 1) := by
  have h := (ofDayNumber_proper n).dayNumber_between
  rw [dayNumber_ofDayNumber] at h
  constructor
  case mp => rintro rfl; exact h
  case mpr =>
    intro h'
    rcases Int.lt_trichotomy (ofDayNumber n).year year with hlt | heq | hgt
    · have := newYear_le (show (ofDayNumber n).year + 1 ≤ year by omega)
      omega
    · exact heq
    · have := newYear_le (show year + 1 ≤ (ofDayNumber n).year by omega)
      omega

end Relabel.Date
