import Relabel.Time.Layout

/-!
# Dates in names and in pictures

The layouts in which dates are looked for, each in its order of preference, and the moments that
they denote: by their own offset where they have one, and in the local zone otherwise.
-/

namespace Relabel

namespace Layout

/-- The layouts of dates with a time that cameras and ISO 8601 write. -/
def recorded : List Layout :=
  let spaced (c : Char) : Layout := datesBy c ++ .blank :: timeBy ':'
  let iso : Layout := datesBy '-' ++ .char 'T' :: timeBy ':'
  [spaced ':', spaced '-', iso, iso ++ [.fraction], spaced ':' ++ [.offset], iso ++ [.offset],
    iso ++ [.fraction, .offset]]

def named : List Layout := [
  compactDate ++ .char '_' :: compactTime,
  compactDate ++ .char '-' :: compactTime,
  compactDate ++ compactTime,
  datesBy '-' ++ .char '_' :: timeBy '-']

def dayOnly : List Layout := [datesBy '-', datesBy '/', datesBy '.', datesBy ':', compactDate]

end Layout

namespace Moment

/-- The first and the last second of a representable moment, in universal time. -/
def isRepresentable (unix : Int) : Bool :=
  (Date.mk Date.firstYear 1 1).dayNumber * 86400 ≤ unix &&
    unix < ((Date.mk Date.lastYear 12 31).dayNumber + 1) * 86400

/-- The moment of a wall-clock time in a zone, if there is exactly one. -/
def ofWallClock? (zone : Zone) (wallClock : Int) (nanos : Nat) : Option Moment := do
  let offset ← zone.offsetOfLocal? wallClock
  if isRepresentable (wallClock - offset) then some ⟨wallClock - offset, nanos, offset⟩ else none

/-- The moment of what has been read with an offset below a day, told in a zone. -/
def ofOffsetReading? (zone : Zone) (r : Reading) : Option Moment := do
  let offset ← r.offset
  let wallClock ← r.wallClock?
  if -86400 < offset ∧ offset < 86400 ∧ isRepresentable (wallClock - offset) then
    some (ofUnix zone (wallClock - offset) r.allNanos)
  else none

/-- The moment of what has been read; without a usable offset the wall clock counts. -/
def ofReading? (zone : Zone) (r : Reading) : Option Moment :=
  match ofOffsetReading? zone r with
  | some m => some m
  | none => r.wallClock?.bind fun wallClock => ofWallClock? zone wallClock r.allNanos

def readRecorded? (zone : Zone) (text : Text) : Option Moment :=
  Layout.recorded.findSome? fun layout =>
    (Layout.read? text.trim .start layout).bind (ofReading? zone)

/-- Reads a date as it stands in a name; a date without a time is its midnight. -/
def readNamed? (zone : Zone) (text : Text) : Option Moment :=
  match readRecorded? zone text with
  | some m => some m
  | none =>
    let reading? (layout : Layout) :=
      (Layout.read? text.trim .start layout).filter (·.wallClock?.isSome)
    match (Layout.named ++ Layout.dayOnly).findSome? reading? with
    | some r => r.wallClock?.bind fun wallClock => ofWallClock? zone wallClock r.allNanos
    | none => none

end Moment

end Relabel
