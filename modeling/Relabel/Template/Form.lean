import Relabel.Template.Variable
import Relabel.Text.DecimalDigit

/-!
# Forms of variables

The spelling of a variable between its braces, with every number still in the digits in which it
is written. Fields are separated by dots; an index has a syntax of its own.
-/

namespace Relabel

/-- One entry of a list of numbers to skip, with the white space in front of it. -/
structure SkipForm where
  blanks : Text
  first : Text
  second : Option Text
deriving DecidableEq, Repr

/-- The parts of an index; a part that is left out has no digits. -/
structure IndexForm where
  group : Option Text
  start : Text
  width : Text
  system : NumberSystem
  step : Text
  skip : List SkipForm
deriving DecidableEq, Repr

inductive Form
  | stem (t : Option Transform)
  | extension (t : Option Transform)
  | parent (levels : Text) (t : Option Transform)
  /-- The name of the kind may be abbreviated. -/
  | picture (short : Bool) (item : PictureAttribute) (field : Option DateField)
      (t : Option Transform)
  | index (form : IndexForm)
  | song (tag : SongTag) (t : Option Transform)
  | digest (algorithm : DigestAlgorithm) (t : Option Transform)
  | time (item : TimeAttribute) (field : DateField) (t : Option Transform)
  | exifTool (tag : Text) (t : Option Transform)
  | capture (group : Option Text) (format : CaptureFormat)
  | column (number : Text) (t : Option Transform)
deriving DecidableEq, Repr

def Form.kind : Form → VariableKind
  | stem .. => .stem
  | extension .. => .extension
  | parent .. => .parent
  | picture .. => .picture
  | index .. => .index
  | song .. => .song
  | digest .. => .digest
  | time .. => .time
  | exifTool .. => .exifTool
  | capture .. => .capture
  | column .. => .column

def isDigits (text : Text) : Bool := text.all isDecimalDigit

def readGroup? : Text → Option Text
  | '$' :: digits => if digits ≠ [] ∧ isDigits digits then some digits else none
  | _ => none

namespace SkipForm

def read? (text : Text) : Option SkipForm :=
  let blanks := text.takeWhile isBlank
  match Text.pieces '-' (text.dropWhile isBlank) with
  | [first] =>
    if first ≠ [] ∧ isDigits first then some ⟨blanks, first, none⟩ else none
  | [first, second] =>
    if first ≠ [] ∧ isDigits first ∧ second ≠ [] ∧ isDigits second then
      some ⟨blanks, first, some second⟩
    else none
  | _ => none

def readAll? (text : Text) : Option (List SkipForm) := do
  let entries ← (Text.pieces ';' text).mapM read?
  match entries with
  | first :: _ => if first.blanks = [] then some entries else none
  | [] => none

def readList? : Text → Option (List SkipForm)
  | [] => some []
  | '<' :: rest => if rest.getLast? = some '>' then readAll? rest.dropLast else none
  | _ => none

end SkipForm

namespace IndexForm

def readSystem (text : Text) : NumberSystem × Text :=
  match text with
  | 'b' :: rest => (.binary, rest)
  | 'o' :: rest => (.octal, rest)
  | 'h' :: rest => (.hexadecimal, rest)
  | 'r' :: rest => (.roman, rest)
  | _ => (.decimal, text)

/-- The group, with its dollar sign, takes all digits behind it. -/
def readFront? (text : Text) : Option (Option Text × Text × Text) :=
  match text with
  | '$' :: rest =>
    match rest.takeWhile isDecimalDigit with
    | [] => none
    | digits => some (some digits, [], rest.dropWhile isDecimalDigit)
  | _ => some (none, text.takeWhile isDecimalDigit, text.dropWhile isDecimalDigit)

def read? (text : Text) : Option IndexForm := do
  let (group, start, rest) ← readFront? text
  let rest ← Text.after? ['%'] rest
  let width := rest.takeWhile isDecimalDigit
  let rest ← Text.after? ['d'] (rest.dropWhile isDecimalDigit)
  let (system, rest) := readSystem rest
  let step := rest.takeWhile isDecimalDigit
  let skip ← SkipForm.readList? (rest.dropWhile isDecimalDigit)
  return ⟨group, start, width, system, step, skip⟩

end IndexForm

namespace Form

def transform? : List Text → Option (Option Transform)
  | [] => some none
  | [label] => (Transform.ofLabel? label).map some
  | _ => none

def readStem? : List Text → Option Form
  | name :: rest => if name = "f".toList then (transform? rest).map stem else none
  | [] => none

def readExtension? : List Text → Option Form
  | name :: rest => if name = "ext".toList then (transform? rest).map extension else none
  | [] => none

def readParent? : List Text → Option Form
  | name :: rest =>
    if name.getLast? = some 'p' ∧ isDigits name.dropLast then
      (transform? rest).map (parent name.dropLast)
    else none
  | [] => none

def readPictureFields? (short : Bool) : List Text → Option Form
  | label :: rest => do
    let item ← PictureAttribute.ofLabel? label
    if item = .captureDate then
      match rest with
      | field :: rest =>
        let field ← DateField.ofLabel? field
        (transform? rest).map (picture short item (some field))
      | [] => none
    else (transform? rest).map (picture short item none)
  | [] => none

def readPicture? : List Text → Option Form
  | name :: rest =>
    if name = "x".toList then readPictureFields? true rest
    else if name = "exif".toList then readPictureFields? false rest
    else none
  | [] => none

def readSong? : List Text → Option Form
  | name :: label :: rest =>
    if name = "id3".toList then do
      let tag ← SongTag.ofLabel? label
      (transform? rest).map (song tag)
    else none
  | _ => none

def readDigest? : List Text → Option Form
  | name :: label :: rest =>
    if name = "hash".toList then do
      let algorithm ← DigestAlgorithm.ofLabel? label
      (transform? rest).map (digest algorithm)
    else none
  | _ => none

def readTime? : List Text → Option Form
  | name :: label :: rest => do
    let item ← TimeAttribute.ofLabel? name
    let field ← DateField.ofLabel? label
    (transform? rest).map (time item field)
  | _ => none

def isTagCharacter (c : Char) : Bool := c.isAlphanum || c == '_'

def readExifTool? : List Text → Option Form
  | name :: tag :: rest =>
    if name = "xt".toList ∧ tag ≠ [] ∧ tag.all isTagCharacter then
      (transform? rest).map (exifTool tag)
    else none
  | _ => none

def readScope? (name : Text) : Option (Option Text) :=
  if name = [] then some none else (readGroup? name).map some

def readCapture? : List Text → Option Form
  | [name, label] => do
    let group ← readScope? name
    let t ← Transform.ofLabel? label
    return capture group (.text t)
  | [name, label, field] =>
    if label = "dt".toList then do
      let group ← readScope? name
      let field ← DateField.ofLabel? field
      return capture group (.date field)
    else none
  | _ => none

def readColumn? : List Text → Option Form
  | name :: digits :: rest =>
    if name = "csv".toList ∧ digits ≠ [] ∧ isDigits digits then
      (transform? rest).map (column digits)
    else none
  | _ => none

def readAs? (body : Text) : VariableKind → Option Form
  | .stem => readStem? (Text.pieces '.' body)
  | .extension => readExtension? (Text.pieces '.' body)
  | .parent => readParent? (Text.pieces '.' body)
  | .picture => readPicture? (Text.pieces '.' body)
  | .index => (IndexForm.read? body).map index
  | .song => readSong? (Text.pieces '.' body)
  | .digest => readDigest? (Text.pieces '.' body)
  | .time => readTime? (Text.pieces '.' body)
  | .exifTool => readExifTool? (Text.pieces '.' body)
  | .capture => readCapture? (Text.pieces '.' body)
  | .column => readColumn? (Text.pieces '.' body)

end Form

end Relabel
