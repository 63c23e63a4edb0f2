import Relabel.Time.Date

/-!
# Time zones

A zone has one offset from universal time, or two that take turns every year. Daylight time may
begin in one year and end in the next, and it may also be the time by which the clock is behind. A
wall-clock time that a turn leaves out or brings twice belongs to no moment.
-/

namespace Relabel

/-- The seconds of an offset are those of less than a day. -/
abbrev BelowDay (offset : Int) : Prop := -86400 < offset ∧ offset < 86400

inductive YearlyDay where
  /-- The n-th weekday of a month; the fifth is the last one. -/
  | weekday (month week onDay : Nat)
      (proper : (1 ≤ month ∧ month ≤ 12) ∧ (1 ≤ week ∧ week ≤ 5) ∧ onDay ≤ 6)
  /-- Counted from 1 without 29 February. -/
  | ofCommonYear (n : Nat) (proper : 1 ≤ n ∧ n ≤ 365)
  /-- Counted from 0. -/
  | ofYear (n : Nat) (proper : n ≤ 365)
deriving DecidableEq, Repr

namespace YearlyDay

-- What comes behind the last day of a year still counts as December.
def monthIn (year : Int) : YearlyDay → Nat
  | weekday month _ _ _ => month
  | ofCommonYear n _ => (Date.ofDayNumber (n - 1)).month
  | ofYear n _ =>
    let date := Date.ofDayNumber ((Date.mk year 1 1).dayNumber + n)
    if date.year = year then date.month else 12

def dayNumber (year : Int) : YearlyDay → Int
  | weekday month week onDay _ =>
    let first := (Date.mk year month 1).dayNumber
    let ahead := (onDay + 7 - Date.weekday first) % 7
    let day := ahead + 7 * (week - 1)
    first + if day < Date.daysInMonth year month then day else day - 7
  | ofCommonYear n _ =>
    -- The first year of the numbers has no 29 February.
    let date := Date.ofDayNumber (n - 1)
    (Date.mk year date.month date.day).dayNumber
  | ofYear n _ => (Date.mk year 1 1).dayNumber + n

end YearlyDay

-- With it the time of a turn can be written as a number of seconds.
instance Zone.neZero_turnTimes : @NeZero Nat Zero.ofOfNat0 90000 := ⟨by decide⟩

/-- A turn comes at a second of wall-clock time, at the latest in the 25th hour of its day. -/
structure YearlyTurn where
  day : YearlyDay
  time : Fin 90000
deriving DecidableEq, Repr

def YearlyTurn.secondsIn (turn : YearlyTurn) (year : Int) : Int :=
  turn.day.dayNumber year * 86400 + turn.time

structure Daylight where
  standard : Int
  daylight : Int
  begins : YearlyTurn
  ends : YearlyTurn
  belowDay : BelowDay standard ∧ BelowDay daylight
deriving DecidableEq, Repr

namespace Daylight

def low (d : Daylight) : Int := min d.standard d.daylight

def high (d : Daylight) : Int := max d.standard d.daylight

def forward (d : Daylight) : YearlyTurn := if d.standard < d.daylight then d.begins else d.ends

def back (d : Daylight) : YearlyTurn := if d.standard < d.daylight then d.ends else d.begins

/-- The offset in force at a moment of universal time. Where daylight time ends before it begins, it
is standard time that lies between two turns of one year. -/
def offsetAt (d : Daylight) (unix : Int) : Int :=
  let begins year := d.begins.secondsIn year - d.standard
  let ends year := d.ends.secondsIn year - d.daylight
  let year := (Date.ofDayNumber (unix / 86400)).year
  -- A turn near the new year may fall into another year of universal time than by the wall clock.
  let years := [year - 1, year, year + 1]
  if begins year ≤ ends year then
    if ∃ y ∈ years, begins y ≤ unix ∧ unix < ends y then d.daylight else d.standard
  else if ∃ y ∈ years, ends y ≤ unix ∧ unix < begins y then d.standard else d.daylight

def PutsForwardFirst (d : Daylight) (year : Int) : Prop :=
  d.begins.day.monthIn year < d.ends.day.monthIn year ↔ d.standard < d.daylight

instance (d : Daylight) (year : Int) : Decidable (d.PutsForwardFirst year) :=
  inferInstanceAs (Decidable (_ ↔ _))

/-- The offset of a wall-clock time, if it belongs to exactly one moment. The second at which the
clock is put back counts with the time that comes twice, and where the clock is first put forward in
a year, the second at which this happens still counts with the time before. -/
def offsetOfLocal? (d : Daylight) (wallClock : Int) : Option Int :=
  let year := (Date.ofDayNumber (wallClock / 86400)).year
  let shift := d.high - d.low
  let forward := d.forward.secondsIn year
  let back := d.back.secondsIn year
  if d.standard = d.daylight then some d.standard
  else if d.PutsForwardFirst year then
    if wallClock ≤ forward then some d.low
    else if wallClock < forward + shift then none
    else if wallClock < back - shift then some d.high
    else if wallClock ≤ back then none
    else some d.low
  else
    if wallClock < back - shift then some d.high
    else if wallClock ≤ back then none
    else if wallClock < forward then some d.low
    else if wallClock < forward + shift then none
    else some d.high

end Daylight

inductive Zone where
  | fixed (offset : Int) (belowDay : BelowDay offset)
  | seasonal (daylight : Daylight)
deriving DecidableEq, Repr

namespace Zone

def utc : Zone := .fixed 0 (by decide)

def offsetAt (zone : Zone) (unix : Int) : Int :=
  match zone with
  | fixed offset _ => offset
  | seasonal d => d.offsetAt unix

def offsetOfLocal? (zone : Zone) (wallClock : Int) : Option Int :=
  match zone with
  | fixed offset _ => some offset
  | seasonal d => d.offsetOfLocal? wallClock

def readNumber? (text : Text) : Option (Nat × Text) :=
  let (digits, rest) := text.span Char.isDigit
  (Text.number? digits).map (·, rest)

/-- Three to seven letters; between angle brackets digits and signs may be among them. -/
def readName? (text : Text) : Option Text := do
  let (name, rest) ← match text with
    | '<' :: rest =>
      let (name, rest) := rest.span (· != '>')
      (Text.after? ['>'] rest).map (name, ·)
    | text => some (text.span Char.isAlpha)
  let known (c : Char) : Bool := c.isAlphanum || c == '+' || c == '-'
  if 3 ≤ name.length ∧ name.length ≤ 7 ∧ name.all known then some rest else none

/-- Hours with optional minutes and seconds, in seconds. -/
def readClock? (text : Text) : Option (Fin 90000 × Text) := do
  let (hours, rest) ← readNumber? text
  let (minutes, seconds, rest) ← match rest with
    | ':' :: rest =>
      let (minutes, rest) ← readNumber? rest
      match rest with
      | ':' :: rest =>
        let (seconds, rest) ← readNumber? rest
        pure (minutes, seconds, rest)
      | _ => pure (minutes, 0, rest)
    | _ => pure (0, 0, rest)
  if h : hours ≤ 24 ∧ minutes ≤ 59 ∧ seconds ≤ 59 then
    some (⟨hours * 3600 + minutes * 60 + seconds, by omega⟩, rest)
  else none

/-- An offset, which is written as what to add to local time. -/
def readOffset? : Text → Option (Int × Text)
  | '-' :: rest => (readClock? rest).map fun r => (r.1, r.2)
  | '+' :: rest => (readClock? rest).map fun r => (-r.1, r.2)
  | rest => (readClock? rest).map fun r => (-r.1, r.2)

def readDay? : Text → Option (YearlyDay × Text)
  | 'M' :: rest => do
    let (month, rest) ← readNumber? rest
    let (week, rest) ← readNumber? (← Text.after? ['.'] rest)
    let (onDay, rest) ← readNumber? (← Text.after? ['.'] rest)
    if h : (1 ≤ month ∧ month ≤ 12) ∧ (1 ≤ week ∧ week ≤ 5) ∧ onDay ≤ 6 then
      some (.weekday month week onDay h, rest)
    else none
  | 'J' :: rest => do
    let (n, rest) ← readNumber? rest
    if h : 1 ≤ n ∧ n ≤ 365 then some (.ofCommonYear n h, rest) else none
  | rest => do
    let (n, rest) ← readNumber? rest
    if h : n ≤ 365 then some (.ofYear n h, rest) else none

def readTurn? (text : Text) : Option (YearlyTurn × Text) := do
  let (day, rest) ← readDay? text
  match rest with
  | '/' :: rest => (readClock? rest).map fun r => (⟨day, r.1⟩, r.2)
  | _ => some (⟨day, 7200⟩, rest)

/-- Reads a zone such as `EST5EDT,M3.2.0,M11.1.0`: a name and an offset, and for daylight time a
second name, an offset unless it is one hour ahead, and the two turns. -/
def read? (text : Text) : Option Zone := do
  let rest ← readName? text
  let (standard, rest) ← readOffset? rest
  if rest = [] then
    if h : BelowDay standard then return .fixed standard h else none
  else
    let rest ← readName? rest
    let (daylight, rest) ← match rest with
      | ',' :: _ => some (standard + 3600, rest)
      | _ => readOffset? rest
    let (begins, rest) ← readTurn? (← Text.after? [','] rest)
    let (ends, rest) ← readTurn? (← Text.after? [','] rest)
    if h : rest = [] ∧ BelowDay standard ∧ BelowDay daylight then
      return .seasonal ⟨standard, daylight, begins, ends, h.2⟩
    else none

end Zone

end Relabel
