import Relabel.Time.Moment

/-!
# Parts of a date

The parts of a moment that a template may ask for, by the letters that stand for them.
-/

namespace Relabel

inductive DateField
  | year
  | yearShort
  | monthName
  | monthAbbreviated
  | monthPadded
  | month
  | weekdayName
  | weekdayAbbreviated
  | dayPadded
  | day
  | hour24
  | hour12Padded
  | hour12
  | minutePadded
  | minute
  | secondPadded
  | second
  | meridiemUpper
  | meridiemLower
  | unix
deriving DecidableEq, Repr

namespace DateField

def all : List DateField := [
  year, yearShort, monthName, monthAbbreviated, monthPadded, month, weekdayName,
  weekdayAbbreviated, dayPadded, day, hour24, hour12Padded, hour12, minutePadded, minute,
  secondPadded, second, meridiemUpper, meridiemLower, unix]

def label : DateField → Text
  | year => "YYYY".toList
  | yearShort => "YY".toList
  | monthName => "MMMM".toList
  | monthAbbreviated => "MMM".toList
  | monthPadded => "MM".toList
  | month => "M".toList
  | weekdayName => "DDDD".toList
  | weekdayAbbreviated => "DDD".toList
  | dayPadded => "DD".toList
  | day => "D".toList
  | hour24 => "H".toList
  | hour12Padded => "hh".toList
  | hour12 => "h".toList
  | minutePadded => "mm".toList
  | minute => "m".toList
  | secondPadded => "ss".toList
  | second => "s".toList
  | meridiemUpper => "A".toList
  | meridiemLower => "a".toList
  | unix => "unix".toList

def ofLabel? (label : Text) : Option DateField := all.find? (·.label = label)

theorem ofLabel?_label (f : DateField) : ofLabel? f.label = some f := by cases f <;> rfl

def monthNames : List String := [
  "January", "February", "March", "April", "May", "June", "July", "August", "September",
  "October", "November", "December"]

def weekdayNames : List String := [
  "Sunday", "Monday", "Tuesday", "Wednesday", "Thursday", "Friday", "Saturday"]

def nameAt (names : List String) (n : Nat) : Text := (names.getD n "").toList

def padded (n : Nat) : Text := Text.zeroPadded 2 (Text.decimal n)

/-- Four digits, with a sign for the years before 0 and after 9999. -/
def yearText (year : Int) : Text :=
  let digits := Text.zeroPadded 4 (Text.decimal year.natAbs)
  if year < 0 then '-' :: digits
  else if year ≤ 9999 then digits
  else '+' :: digits

def clockHour (hour : Nat) : Nat := if hour % 12 = 0 then 12 else hour % 12

def render (m : Moment) : DateField → Text
  | year => yearText m.date.year
  | yearShort => padded (m.date.year % 100).toNat
  | monthName => nameAt monthNames (m.date.month - 1)
  | monthAbbreviated => (nameAt monthNames (m.date.month - 1)).take 3
  | monthPadded => padded m.date.month
  | month => Text.decimal m.date.month
  | weekdayName => nameAt weekdayNames (Date.weekday m.dayNumber)
  | weekdayAbbreviated => (nameAt weekdayNames (Date.weekday m.dayNumber)).take 3
  | dayPadded => padded m.date.day
  | day => Text.decimal m.date.day
  | hour24 => padded m.hour
  | hour12Padded => padded (clockHour m.hour)
  | hour12 => Text.decimal (clockHour m.hour)
  | minutePadded => padded m.minute
  | minute => Text.decimal m.minute
  | secondPadded => padded m.second
  | second => Text.decimal m.second
  | meridiemUpper => if m.hour < 12 then "AM".toList else "PM".toList
  | meridiemLower => if m.hour < 12 then "am".toList else "pm".toList
  | unix => Text.integer m.unix

end DateField

end Relabel
