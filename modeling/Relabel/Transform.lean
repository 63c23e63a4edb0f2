import Relabel.Pattern.CharClass
import Relabel.Text.Casing

/-!
# Text transforms

The ways in which a variable may change its value before it is put into a name.
-/

namespace Relabel

inductive Transform
  | upper
  | lower
  | title
  /-- Without the characters that Windows forbids in file names. -/
  | windows
  /-- Without the colons that macOS forbids. -/
  | mac
deriving DecidableEq, Repr

namespace Transform

def all : List Transform := [upper, lower, title, windows, mac]

def label : Transform → Text
  | upper => "up".toList
  | lower => "lw".toList
  | title => "ti".toList
  | windows => "win".toList
  | mac => "mac".toList

def ofLabel? (label : Text) : Option Transform := all.find? (·.label = label)

theorem ofLabel?_label (t : Transform) : ofLabel? t.label = some t := by cases t <;> rfl

def isForbiddenOnWindows (c : Char) : Bool :=
  "\\/:*?\"<>|".toList.contains c || isControl c

def apply (value : Text) : Transform → Text
  | upper => value.uppercase
  | lower => value.lowercase
  | title => value.titlecase
  | windows => value.filter fun c => !isForbiddenOnWindows c
  | mac => value.filter (· ≠ ':')

def applyAny (t : Option Transform) (value : Text) : Text :=
  match t with
  | some t => t.apply value
  | none => value

end Transform

end Relabel
