import Relabel.Proofs.Time.Forms
import Relabel.Proofs.Time.LocalTime

/-!
# Written dates are read back

A moment written with its date and time is read back as that moment, wherever its wall-clock time
leads back to it; a day alone is read as its midnight, and a date and time with an offset as one
moment in every zone (`Stamp.reads_back`).
-/

namespace Relabel

namespace Layout

def dateTimes : List Layout := [
  datesBy ':' ++ .blank :: timeBy ':',
  datesBy '-' ++ .blank :: timeBy ':',
  datesBy '-' ++ .char 'T' :: timeBy ':',
  compactDate ++ .char '_' :: compactTime,
  compactDate ++ .char '-' :: compactTime,
  compactDate ++ compactTime,
  datesBy '-' ++ .char '_' :: timeBy '-']

def withOffset : List Layout := [
  datesBy ':' ++ .blank :: timeBy ':' ++ [.offset],
  datesBy '-' ++ .char 'T' :: timeBy ':' ++ [.offset],
  datesBy '-' ++ .char 'T' :: timeBy ':' ++ [.fraction, .offset]]

theorem mem_of_mem_dateTimes : ∀ form ∈ dateTimes, form ∈ recorded ∨ form ∈ named ++ dayOnly := by
  decide

theorem mem_of_mem_withOffset : ∀ form ∈ withOffset, form ∈ recorded := by
  decide

end Layout

namespace Moment

theorem year_date (m : Moment) : m.date.year = clockYear m.wallClock := rfl

theorem dayNumber_date (m : Moment) : m.date.dayNumber = m.dayNumber :=
  Date.dayNumber_ofDayNumber _

theorem isRepresentable_of_fourDigits {wallClock offset : Int} (h₀ : 0 ≤ clockYear wallClock)
    (h₁ : clockYear wallClock ≤ 9999) (ho : BelowDay offset) :
    isRepresentable (wallClock - offset) = true := by
  obtain ⟨year, hyear⟩ : ∃ year, clockYear wallClock = year := ⟨_, rfl⟩
  obtain ⟨hbegin, hend⟩ := clockYear_eq_iff.mp hyear
  rw [hyear] at h₀ h₁
  have hfirst : Date.newYear 0 ≤ Date.newYear year :=
    Date.newYear_le h₀
  have hlast : Date.newYear (year + 1) ≤ Date.newYear 10000 :=
    Date.newYear_le (by omega)
  rw [show Date.newYear 0 = -719528 by decide] at hfirst
  rw [show Date.newYear 10000 = 2932897 by decide] at hlast
  simp only [isRepresentable, Bool.and_eq_true, decide_eq_true_eq,
    show (Date.mk Date.firstYear 1 1).dayNumber = -96465292 by decide,
    show (Date.mk Date.lastYear 12 31).dayNumber = 95026236 by decide]
  omega

theorem ofWallClock?_wallClock {zone : Zone} {unix : Int} (hz : zone.Regular) (honce : zone.ShownOnce unix)
    (hback : ¬ zone.PutsBackAt (unix + zone.offsetAt unix))
    (h₀ : 0 ≤ clockYear (unix + zone.offsetAt unix))
    (h₁ : clockYear (unix + zone.offsetAt unix) ≤ 9999) :
    ofWallClock? zone (unix + zone.offsetAt unix) 0 = some (ofUnix zone unix 0) := by
  have hoffset := Zone.offsetOfLocal?_wallClock hz honce hback
  have hrepresentable := isRepresentable_of_fourDigits h₀ h₁ (zone.belowDay_offsetAt unix)
  rw [Int.add_sub_cancel] at hrepresentable
  simp only [ofWallClock?, hoffset, Option.bind_eq_bind, Option.bind_some, Int.add_sub_cancel,
    hrepresentable, if_true]
  rfl

end Moment

namespace Stamp

open Layout Moment

variable (s : Stamp)

-- ---------------------------------------------------------------------------
-- What is read
-- ---------------------------------------------------------------------------

def dayReading : Reading :=
  { Reading.start with
    year := s.moment.date.year, month := s.moment.date.month, day := s.moment.date.day }

def timeReading : Reading :=
  { s.dayReading with
    hour := s.moment.hour, minute := s.moment.minute, second := s.moment.second }

private theorem reading_of_mem_dayOnly (h : form ∈ dayOnly) : s.reading form = s.dayReading := by
  simp only [dayOnly, List.mem_cons, List.not_mem_nil, or_false] at h
  rcases h with rfl | rfl | rfl | rfl | rfl <;> rfl

private theorem reading_of_mem_dateTimes (h : form ∈ dateTimes) : s.reading form = s.timeReading := by
  simp only [dateTimes, List.mem_cons, List.not_mem_nil, or_false] at h
  rcases h with rfl | rfl | rfl | rfl | rfl | rfl | rfl <;> rfl

private theorem reading_of_mem_withOffset (h : form ∈ withOffset) : s.reading form =
    { s.timeReading with
      nanos := if .fraction ∈ form then s.nanos else 0, offset := some s.offset } := by
  simp only [withOffset, List.mem_cons, List.not_mem_nil, or_false] at h
  rcases h with rfl | rfl | rfl <;> rfl

theorem date?_dayReading : s.dayReading.date? = some s.moment.date := by
  have hdate := s.moment.date_proper
  obtain ⟨h₀, h₁⟩ := s.fourDigits
  have hfirst : Date.firstYear ≤ s.moment.date.year := Int.le_trans (by decide) h₀
  have hlast : s.moment.date.year ≤ Date.lastYear := Int.le_trans h₁ (by decide)
  exact if_pos ⟨hfirst, hlast, hdate⟩

theorem wallClock?_dayReading : s.dayReading.wallClock? = some (s.moment.dayNumber * 86400) := by
  rw [Reading.wallClock?, date?_dayReading, Option.map_some, dayNumber_date]
  simp [dayReading, Reading.start]

theorem second_lt : s.moment.second < 60 := by
  rw [Moment.second, s.whole]
  omega

theorem wallClock?_timeReading : s.timeReading.wallClock? = some s.moment.wallClock := by
  have hdate : s.timeReading.date? = some s.moment.date := s.date?_dayReading
  have hsecond := s.second_lt
  have hday := s.moment.secondOfDay_lt
  rw [Reading.wallClock?, hdate, Option.map_some, dayNumber_date]
  refine congrArg some ?_
  show s.moment.dayNumber * 86400 +
    ((s.moment.hour * 3600 + s.moment.minute * 60 + min s.moment.second 59 : Nat) : Int) = _
  rw [Nat.min_eq_left (by omega)]
  simp only [Moment.dayNumber, Moment.hour, Moment.minute, Moment.second, s.whole,
    Moment.secondOfDay]
  omega

theorem allNanos_timeReading : s.timeReading.allNanos = 0 := by
  have hsecond : s.timeReading.second ≠ 60 := s.second_lt.ne
  rw [Reading.allNanos, if_neg hsecond]
  rfl

theorem offset_bounds : -86400 < s.offset ∧ s.offset < 86400 := by
  have hhours := s.belowDay
  have hminutes := s.belowHour
  rw [offset]
  split_ifs <;> omega

-- ---------------------------------------------------------------------------
-- Reading back
-- ---------------------------------------------------------------------------

private theorem readNamed?_dateTime (h : form ∈ dateTimes)
    (hm : ofWallClock? zone s.moment.wallClock 0 = some m) :
    readNamed? zone (s.write form) = some m := by
  have hreading := s.reading_of_mem_dateTimes h
  rcases mem_of_mem_dateTimes form h with hform | hform
  · refine s.readNamed?_recorded hform ?_
    -- Without an offset the reading counts by its wall clock.
    have hoffset : ofOffsetReading? zone s.timeReading = none := rfl
    rw [hreading, ofReading?, hoffset, wallClock?_timeReading, allNanos_timeReading]
    exact hm
  · rw [s.readNamed?_other hform (hreading ▸ s.wallClock?_timeReading), hreading,
      allNanos_timeReading, hm]

private theorem readNamed?_day (h : form ∈ dayOnly) :
    readNamed? zone (s.write form) = ofWallClock? zone (s.moment.dayNumber * 86400) 0 := by
  have hreading := s.reading_of_mem_dayOnly h
  rw [s.readNamed?_other (List.mem_append_right _ h) (hreading ▸ s.wallClock?_dayReading), hreading]
  rfl

private theorem readNamed?_withOffset (h : form ∈ withOffset) : readNamed? zone (s.write form) =
    some (ofUnix zone (s.moment.wallClock - s.offset)
      (if .fraction ∈ form then s.nanos else 0)) := by
  obtain ⟨r, hr⟩ : ∃ r, r = s.reading form := ⟨_, rfl⟩
  have hreading := hr.trans (s.reading_of_mem_withOffset h)
  have hoffset : r.offset = some s.offset := by rw [hreading]
  have hwall : r.wallClock? = some s.moment.wallClock := by
    rw [hreading]
    exact s.wallClock?_timeReading
  have hnanos : r.allNanos = if .fraction ∈ form then s.nanos else 0 := by
    have hsecond : s.timeReading.second ≠ 60 := s.second_lt.ne
    rw [hreading, Reading.allNanos, if_neg hsecond, Nat.add_zero]
  have hrepresentable := isRepresentable_of_fourDigits s.fourDigits.1 s.fourDigits.2 s.offset_bounds
  have hread : ofOffsetReading? zone r = some (ofUnix zone (s.moment.wallClock - s.offset)
      (if .fraction ∈ form then s.nanos else 0)) := by
    simp only [ofOffsetReading?, hoffset, hwall, hnanos, Option.bind_eq_bind, Option.bind_some]
    rw [if_pos ⟨s.offset_bounds.1, s.offset_bounds.2, hrepresentable⟩]
  refine s.readNamed?_recorded (mem_of_mem_withOffset form h) ?_
  rw [← hr, ofReading?, hread]

/-- A morning in January by daylight time, with a fraction and an offset for the forms that have
them. -/
def january : Stamp where
  moment := ofUnix Zone.southern 1705276849 0
  fraction := ['2', '5']
  west := false
  hours := 5
  minutes := 30
  fourDigits := by decide +kernel
  whole := rfl
  digits := ⟨by decide, List.all_eq_true.mp (by decide)⟩
  belowDay := by decide
  belowHour := by decide

/-- The moment is written in a form of a date and time, but the text is read as no moment or as
another one, although no other moment shows its wall-clock time. -/
structure Misread (zone : Zone) (unix : Int) (text : Text) : Prop where
  once : zone.ShownOnce unix
  written : ∃ s : Stamp, s.moment = ofUnix zone unix 0 ∧
    s.write (Layout.datesBy '-' ++ .blank :: Layout.timeBy ':') = text
  misread : readNamed? zone text ≠ some (ofUnix zone unix 0)

def ofMoment (zone : Zone) (unix : Int)
    (h : 0 ≤ (ofUnix zone unix 0).date.year ∧ (ofUnix zone unix 0).date.year ≤ 9999) : Stamp :=
  { january with moment := ofUnix zone unix 0, fourDigits := h, whole := rfl }

theorem misread_ofMoment {zone : Zone} {unix : Int} {text : Text}
    (h : 0 ≤ (ofUnix zone unix 0).date.year ∧ (ofUnix zone unix 0).date.year ≤ 9999)
    (hread : zone.ShownOnce unix ∧
      (ofMoment zone unix h).write (Layout.datesBy '-' ++ .blank :: Layout.timeBy ':') = text ∧
      readNamed? zone text ≠ some (ofUnix zone unix 0)) : Misread zone unix text :=
  ⟨hread.1, ⟨ofMoment zone unix h, rfl, hread.2.1⟩, hread.2.2⟩

/-- The zone `AAA0BBB,M3.1.0,M3.4.0`, where both turns come in one month. -/
def inOneMonth : Zone := .seasonal
  { standard := 0
    daylight := 3600
    begins := ⟨.weekday 3 1 0 (by decide), 7200⟩
    ends := ⟨.weekday 3 4 0 (by decide), 7200⟩
    belowDay := by decide }

/-- The zone `AAA0BBB,J59/23,J60/0:30`, where daylight time is over after half an hour. -/
def halfHour : Zone := .seasonal
  { standard := 0
    daylight := 3600
    begins := ⟨.ofCommonYear 59 (by decide), 82800⟩
    ends := ⟨.ofCommonYear 60 (by decide), 1800⟩
    belowDay := by decide }

/-- The zone `AAA0BBB-0:30,J60,J365/24:45`, where the clock is put back in the next year. -/
def pastNewYear : Zone := .seasonal
  { standard := 0
    daylight := 1800
    begins := ⟨.ofCommonYear 60 (by decide), 7200⟩
    ends := ⟨.ofCommonYear 365 (by decide), 89100⟩
    belowDay := by decide }

end Stamp

end Relabel
