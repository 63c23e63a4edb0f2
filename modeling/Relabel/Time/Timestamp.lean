import Relabel.Time.DateField

/-!
# Timestamps

A moment in the form of RFC 3339, with the fraction of its second in groups of three digits.
-/

namespace Relabel.Moment

def fractionText (nanos : Nat) : Text :=
  let digits := Text.zeroPadded 9 (Text.decimal nanos)
  if nanos = 0 then []
  else if nanos % 1000000 = 0 then '.' :: digits.take 3
  else if nanos % 1000 = 0 then '.' :: digits.take 6
  else '.' :: digits

def offsetText (offset : Int) : Text :=
  let minutes := offset.natAbs / 60
  (if offset < 0 then '-' else '+') ::
    DateField.padded (minutes / 60) ++ ':' :: DateField.padded (minutes % 60)

def timestamp (zulu : Bool) (m : Moment) : Text :=
  DateField.yearText m.date.year ++ '-' :: DateField.padded m.date.month ++
    '-' :: DateField.padded m.date.day ++ 'T' :: DateField.padded m.hour ++
    ':' :: DateField.padded m.minute ++ ':' :: DateField.padded m.second ++
    fractionText (m.nanos % 1000000000) ++
    (if zulu && m.offset == 0 then ['Z'] else offsetText m.offset)

end Relabel.Moment
