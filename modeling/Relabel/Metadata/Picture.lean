import Relabel.Time.DateField

/-!
# Picture data

What a camera records in a picture.
-/

namespace Relabel

inductive PictureAttribute
  | iso
  | exposureTime
  | focalLength
  | focalLength35
  | fNumber
  | width
  | height
  | dimensions
  | make
  | model
  | lens
  | software
  | latitude
  | longitude
  | captureDate
deriving DecidableEq, Repr

namespace PictureAttribute

def all : List PictureAttribute := [
  iso, exposureTime, focalLength, focalLength35, fNumber, width, height, dimensions, make, model,
  lens, software, latitude, longitude, captureDate]

def label : PictureAttribute → Text
  | iso => "iso".toList
  | exposureTime => "et".toList
  | focalLength => "fl".toList
  | focalLength35 => "fl35".toList
  | fNumber => "fnum".toList
  | width => "w".toList
  | height => "h".toList
  | dimensions => "wh".toList
  | make => "make".toList
  | model => "model".toList
  | lens => "lens".toList
  | software => "soft".toList
  | latitude => "lat".toList
  | longitude => "lon".toList
  | captureDate => "cdt".toList

def ofLabel? (label : Text) : Option PictureAttribute := all.find? (·.label = label)

theorem ofLabel?_label (a : PictureAttribute) : ofLabel? a.label = some a := by cases a <;> rfl

end PictureAttribute

structure PictureData where
  iso : Option Text
  exposureTime : Option Text
  focalLength : Option Text
  focalLength35 : Option Text
  fNumber : Option Text
  width : Option Text
  height : Option Text
  make : Option Text
  model : Option Text
  lens : Option Text
  software : Option Text
  latitude : Option Text
  longitude : Option Text
  date : Option Moment
deriving DecidableEq, Repr

namespace PictureData

def empty : PictureData :=
  ⟨none, none, none, none, none, none, none, none, none, none, none, none, none, none⟩

/-- The value of an attribute. Of the capture date the given part is told, or else the year. -/
def value (data : PictureData) (field : Option DateField) : PictureAttribute → Option Text
  | .iso => data.iso
  | .exposureTime => data.exposureTime
  | .focalLength => data.focalLength
  | .focalLength35 => data.focalLength35
  | .fNumber => data.fNumber
  | .width => data.width
  | .height => data.height
  | .dimensions =>
    match data.width, data.height with
    | some w, some h => some (w ++ 'x' :: h)
    | _, _ => none
  | .make => data.make
  | .model => data.model
  | .lens => data.lens
  | .software => data.software
  | .latitude => data.latitude
  | .longitude => data.longitude
  | .captureDate => data.date.map (field.getD .year).render

end PictureData

end Relabel
