import Relabel.Metadata.Picture
import Relabel.Picture.Jpeg
import Relabel.Picture.Tiff
import Relabel.Time.NameDate

/-!
# Reading picture data

The data of a picture are those of the first picture in a TIFF or JPEG file. A file without any,
or with malformed ones, tells nothing.
-/

namespace Relabel

namespace Picture

def imageTag (number : Nat) : Tag := ⟨.image, number⟩
def cameraTag (number : Nat) : Tag := ⟨.camera, number⟩
def positionTag (number : Nat) : Tag := ⟨.position, number⟩

/-- The values of a field of the first picture; of fields with one tag the last counts. -/
def find? (fields : List Field) (tag : Tag) : Option Values :=
  (fields.reverse.find? fun field => field.tag = tag ∧ field.picture = 0).map (·.values)

def findFirst? (fields : List Field) (tags : List Tag) : Option Values :=
  tags.findSome? (find? fields)

def number? (fields : List Field) (tags : List Tag) : Option Text :=
  ((findFirst? fields tags).bind Values.unsigned?).map Text.decimal

def text? (fields : List Field) (tag : Tag) : Option Text := (find? fields tag).bind Values.text?

def degrees (d m s : Nat × Nat) : Floating :=
  let add := Floating.add .double
  let part (n : Nat × Nat) (divisor : Int) : Floating :=
    Floating.divide .double (quotient n.1 n.2) (Floating.ofInt .double divisor)
  add (add (quotient d.1 d.2) (part m 60)) (part s 3600)

/-- A coordinate; the letter in the field before it tells the sign. -/
def coordinate? (fields : List Field) (number : Nat) (negative : Char) : Option Text :=
  match find? fields (positionTag number) with
  | some (.ratios (d :: m :: s :: _)) =>
    let side := text? fields (positionTag (number - 1))
    let value := degrees d m s
    let value := if side.any (·.head? == some negative) then value.negate else value
    some (value.fixedText 6)
  | _ => none

def date? (zone : Zone) (fields : List Field) : Option Moment :=
  ((findFirst? fields [cameraTag 0x9003, cameraTag 0x9004, imageTag 0x0132]).bind
    Values.text?).bind (Moment.readRecorded? zone)

def slashesAway (text : Text) : Text := text.map fun c => if c = '/' then '_' else c

def record (zone : Zone) (fields : List Field) : PictureData where
  iso := number? fields [cameraTag 0x8827]
  exposureTime := (find? fields (cameraTag 0x829A)).map (slashesAway ·.exposureText)
  focalLength := (find? fields (cameraTag 0x920A)).map Values.decimalText
  focalLength35 := number? fields [cameraTag 0xA405]
  fNumber := (find? fields (cameraTag 0x829D)).map Values.decimalText
  width := number? fields [cameraTag 0xA002, imageTag 0x0100]
  height := number? fields [cameraTag 0xA003, imageTag 0x0101]
  make := text? fields (imageTag 0x010F)
  model := text? fields (imageTag 0x0110)
  lens := text? fields (cameraTag 0xA434)
  software := text? fields (imageTag 0x0131)
  latitude := coordinate? fields 2 'S'
  longitude := coordinate? fields 4 'W'
  date := date? zone fields

def data? (file : ByteArray) : Option ByteArray :=
  match Binary.slice? file 0 4 with
  | some [0x49, 0x49, 0x2A, 0x00] | some [0x4D, 0x4D, 0x00, 0x2A] => some file
  | _ => (Jpeg.data? file.data.toList).map fun bytes => ⟨bytes.toArray⟩

end Picture

def PictureData.read (zone : Zone) (file : ByteArray) : PictureData :=
  match (Picture.data? file).bind Picture.Tiff.fields? with
  | some fields => Picture.record zone fields
  | none => .empty

end Relabel
