import Relabel.Time.Zone

/-!
# Moments

A moment in universal time together with the offset of the local time in which it is told.
-/

namespace Relabel

structure Moment where
  /-- Whole seconds since the start of 1970. -/
  unix : Int
  /-- Nanoseconds on top; a billion or more within a leap second. -/
  nanos : Nat
  offset : Int
deriving DecidableEq, Repr

namespace Moment

def ofUnix (zone : Zone) (unix : Int) (nanos : Nat) : Moment := ⟨unix, nanos, zone.offsetAt unix⟩

def wallClock (m : Moment) : Int := m.unix + m.offset

def dayNumber (m : Moment) : Int := m.wallClock / 86400

def date (m : Moment) : Date := Date.ofDayNumber m.dayNumber

def secondOfDay (m : Moment) : Nat := (m.wallClock % 86400).toNat

def hour (m : Moment) : Nat := m.secondOfDay / 3600

def minute (m : Moment) : Nat := m.secondOfDay / 60 % 60

def second (m : Moment) : Nat := m.secondOfDay % 60 + m.nanos / 1000000000

end Moment

end Relabel
