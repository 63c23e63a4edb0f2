import Relabel.Text.Blank
import Relabel.Time.DateField

/-!
# Reading dates

A layout is a list of items to be read one after the other. White space before a number does not
count, a year takes four digits at most unless it has a sign, and a leap second is admitted.
-/

namespace Relabel

inductive LayoutItem
  | year
  | month
  | day
  | hour
  | minute
  | second
  /-- A point and digits, or nothing. -/
  | fraction
  /-- A sign, hours and minutes, which a colon may separate. -/
  | offset
  /-- Any white space, also none. -/
  | blank
  | char (c : Char)
deriving DecidableEq, Repr

abbrev Layout := List LayoutItem

structure Reading where
  year : Int
  month : Nat
  day : Nat
  hour : Nat
  minute : Nat
  second : Nat
  nanos : Nat
  offset : Option Int
deriving DecidableEq, Repr

namespace Reading

def start : Reading := ⟨0, 0, 0, 0, 0, 0, 0, none⟩

def date? (r : Reading) : Option Date := Date.of? r.year r.month r.day

/-- The wall-clock seconds that have been read; a leap second counts with the one before it. -/
def wallClock? (r : Reading) : Option Int :=
  r.date?.map fun d => d.dayNumber * 86400 + (r.hour * 3600 + r.minute * 60 + min r.second 59 : Nat)

def allNanos (r : Reading) : Nat := r.nanos + if r.second = 60 then 1000000000 else 0

end Reading

namespace Layout

def readNumber? (most : Nat) (text : Text) : Option (Nat × Text) :=
  let digits := (text.take most).takeWhile Char.isDigit
  (Text.number? digits).map fun n => (n, text.drop digits.length)

def readBetween? (least most : Nat) (text : Text) : Option (Nat × Text) :=
  (readNumber? 2 text.trimStart).filter fun r => least ≤ r.1 && r.1 ≤ most

def readYear? (text : Text) : Option (Int × Text) :=
  match text.trimStart with
  | '-' :: rest => (readNumber? rest.length rest).map fun r => (-(r.1 : Int), r.2)
  | '+' :: rest => (readNumber? rest.length rest).map fun r => ((r.1 : Int), r.2)
  | rest => (readNumber? 4 rest).map fun r => ((r.1 : Int), r.2)

/-- The digits behind a point; those after the ninth do not count. -/
def readFraction? : Text → Option (Nat × Text)
  | '.' :: rest =>
    let digits := rest.takeWhile Char.isDigit
    (Text.number? (digits.take 9)).map fun n =>
      (n * Nat.pow 10 (9 - (digits.take 9).length), rest.drop digits.length)
  | rest => some (0, rest)

def readPair? (text : Text) : Option (Nat × Text) :=
  match text with
  | a :: b :: rest => if a.isDigit && b.isDigit then (Text.number? [a, b]).map (·, rest) else none
  | _ => none

def readOffset? (text : Text) : Option (Int × Text) := do
  let (negative, rest) ← match text.trimStart with
    | '+' :: rest => some (false, rest)
    | '-' :: rest => some (true, rest)
    | '−' :: rest => some (true, rest)
    | _ => none
  let (hours, rest) ← readPair? rest
  let (minutes, rest) ← readPair? (rest.dropWhile fun c => c == ':' || isBlank c)
  if 60 ≤ minutes then none
  else
    let seconds : Int := (hours * 3600 + minutes * 60 : Nat)
    return (if negative then -seconds else seconds, rest)

def readItem? (text : Text) (r : Reading) : LayoutItem → Option (Reading × Text)
  | .year => (readYear? text).map fun (n, rest) => ({ r with year := n }, rest)
  | .month => (readBetween? 1 12 text).map fun (n, rest) => ({ r with month := n }, rest)
  | .day => (readBetween? 1 31 text).map fun (n, rest) => ({ r with day := n }, rest)
  | .hour => (readBetween? 0 23 text).map fun (n, rest) => ({ r with hour := n }, rest)
  | .minute => (readBetween? 0 59 text).map fun (n, rest) => ({ r with minute := n }, rest)
  | .second => (readBetween? 0 60 text).map fun (n, rest) => ({ r with second := n }, rest)
  | .fraction => (readFraction? text).map fun (n, rest) => ({ r with nanos := n }, rest)
  | .offset => (readOffset? text).map fun (n, rest) => ({ r with offset := some n }, rest)
  | .blank => some (r, text.trimStart)
  | .char c =>
    match text with
    | d :: rest => if c = d then some (r, rest) else none
    | [] => none

def read? (text : Text) (r : Reading) : Layout → Option Reading
  | [] => if text = [] then some r else none
  | item :: items =>
    match readItem? text r item with
    | some (r, rest) => read? rest r items
    | none => none

def datesBy (c : Char) : Layout := [.year, .char c, .month, .char c, .day]

def compactDate : Layout := [.year, .month, .day]

def timeBy (c : Char) : Layout := [.hour, .char c, .minute, .char c, .second]

def compactTime : Layout := [.hour, .minute, .second]

end Layout

end Relabel
