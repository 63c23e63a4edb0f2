import Relabel.Time.Moment

/-!
# File times

The moments that a file system records of a file. Those it does not record are taken to be the
time of the last modification.
-/

namespace Relabel

inductive TimeAttribute
  | modified
  | birth
  | access
  | change
  /-- The moment of the run itself. -/
  | now
deriving DecidableEq, Repr

namespace TimeAttribute

def all : List TimeAttribute := [modified, birth, access, change, now]

def label : TimeAttribute → Text
  | modified => "mtime".toList
  | birth => "btime".toList
  | access => "atime".toList
  | change => "ctime".toList
  | now => "now".toList

def ofLabel? (label : Text) : Option TimeAttribute := all.find? (·.label = label)

theorem ofLabel?_label (a : TimeAttribute) : ofLabel? a.label = some a := by cases a <;> rfl

end TimeAttribute

structure FileTimes where
  modified : Moment
  accessed : Moment
  created : Option Moment
  changed : Option Moment
deriving DecidableEq, Repr

def FileTimes.get (times : FileTimes) (now : Moment) : TimeAttribute → Moment
  | .modified => times.modified
  | .access => times.accessed
  | .birth => times.created.getD times.modified
  | .change => times.changed.getD times.modified
  | .now => now

end Relabel
