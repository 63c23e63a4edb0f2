import Relabel.Binary.Basic
import Relabel.Picture.Field

/-!
# TIFF

The data of a picture are kept in directories of fields, the first of which describe pictures, one
directory after the other. A field may point to a further directory. Data that are malformed in
any place yield no fields at all.
-/

namespace Relabel.Picture.Tiff

def size? (type : Nat) : Option Nat :=
  [none, some 1, some 1, some 2, some 4, some 8, some 1, some 1, some 2, some 4, some 8, some 4,
    some 8][type]?.join

/-- The parts between the zero bytes; an empty part at the end does not count. -/
def splitTexts (bytes : List UInt8) : List (List UInt8) :=
  let texts := bytes.splitOn 0
  if texts.getLast? = some [] then texts.dropLast else texts

def ratio (number : List UInt8 → α) (bytes : List UInt8) : α × α :=
  (number (bytes.take 4), number (bytes.drop 4))

def values (order : ByteOrder) (type size : Nat) (bytes : List UInt8) : Values :=
  let items := Binary.parts size bytes
  let number := Binary.number order
  let signed (bytes : List UInt8) := Binary.toSigned (8 * bytes.length) (number bytes)
  match type with
  | 2 => .texts (splitTexts bytes)
  | 5 => .ratios (items.map (ratio number))
  | 6 | 8 | 9 => .signed (items.map signed)
  | 7 => .raw bytes
  | 10 => .signedRatios (items.map (ratio signed))
  | 11 => .floats .single (items.map fun item => Floating.ofBits .single 8 (number item))
  | 12 => .floats .double (items.map fun item => Floating.ofBits .double 11 (number item))
  | _ => .unsigned (items.map number)

/-- The tag number and the values of the entry at an offset. Up to four bytes of values stand in
the entry itself, more where it points to. -/
def entry? (data : ByteArray) (order : ByteOrder) (offset : Nat) : Option (Nat × Values) := do
  let tag ← Binary.number? order data offset 2
  let type ← Binary.number? order data (offset + 2) 2
  let count ← Binary.number? order data (offset + 4) 4
  let pointer ← Binary.number? order data (offset + 8) 4
  match size? type with
  | none => return (tag, .unknown type count (offset + 8))
  | some size =>
    let place := if size * count ≤ 4 then offset + 8 else pointer
    return (tag, values order type size (← Binary.slice? data place (size * count)))

def target? (tag : Tag) : Option Section :=
  if tag = ⟨.image, 0x8769⟩ then some .camera
  else if tag = ⟨.image, 0x8825⟩ then some .position
  else if tag = ⟨.camera, 0xA005⟩ then some .interoperability
  else none

/-- The fields of the directory at an offset, with those that it points to through so many levels,
and the offset of the next directory. One that is pointed to has no next one. -/
def directory? (data : ByteArray) (order : ByteOrder) (picture levels : Nat) (place : Section)
    (offset : Nat) : Option (List Field × Nat) := do
  let count ← Binary.number? order data offset 2
  let fields ← (List.range count).mapM fun n => do
    let (number, values) ← entry? data order (offset + 2 + 12 * n)
    match target? ⟨place, number⟩, levels with
    | none, _ => return [⟨⟨place, number⟩, picture, values⟩]
    | some _, 0 => none
    | some target, levels + 1 =>
      let (fields, next) ← directory? data order picture levels target (← values.unsigned?)
      if next = 0 then return fields else none
  let next ← Binary.number? order data (offset + 2 + 12 * count) 4
  return (fields.flatten, next)

def directories? (data : ByteArray) (order : ByteOrder) (picture : Nat) :
    Nat → Nat → Option (List Field)
  | _, 0 => some []
  | 0, _ => none
  | most + 1, offset => do
    let (fields, next) ← directory? data order picture 2 .image offset
    return fields ++ (← directories? data order (picture + 1) most next)

def order? (data : ByteArray) : Option ByteOrder :=
  match Binary.slice? data 0 2 with
  | some [0x4D, 0x4D] => some .big
  | some [0x49, 0x49] => some .little
  | _ => none

def fields? (data : ByteArray) : Option (List Field) := do
  let order ← order? data
  if (← Binary.number? order data 2 2) ≠ 42 then none
  else directories? data order 0 8 (← Binary.number? order data 4 4)

end Relabel.Picture.Tiff
