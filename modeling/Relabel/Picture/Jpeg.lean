import Relabel.Binary.Basic

/-!
# JPEG

A JPEG file is a sequence of segments behind markers. The data of the picture stand in the first
application segment that says so.
-/

namespace Relabel.Picture.Jpeg

def label : List UInt8 := [0x45, 0x78, 0x69, 0x66, 0x00, 0x00]

def isFill (b : UInt8) : Bool := b == 0xFF

def standsAlone (marker : UInt8) : Bool :=
  marker == 0x00 || marker == 0x01 || (0xD0 ≤ marker && marker ≤ 0xD7)

/-- What follows the next marker, with the marker. -/
def nextMarker? (bytes : List UInt8) : Option (UInt8 × List UInt8) :=
  match (bytes.dropWhile fun b => !isFill b).dropWhile isFill with
  | marker :: rest => some (marker, rest)
  | [] => none

theorem length_of_nextMarker? {bytes rest : List UInt8} {marker : UInt8}
    (h : nextMarker? bytes = some (marker, rest)) : rest.length < bytes.length := by
  unfold nextMarker? at h
  split at h
  case h_1 m r hm =>
    simp only [Option.some.injEq, Prod.mk.injEq] at h
    have h1 := (List.dropWhile_suffix (l := bytes) fun b => !isFill b).length_le
    have h2 := (List.dropWhile_suffix (l := bytes.dropWhile fun b => !isFill b) isFill).length_le
    rw [hm] at h2
    simp only [List.length_cons] at h2
    rw [← h.2]
    omega
  case h_2 => simp at h

/-- The picture data among the segments, which end where a picture begins or ends. -/
def dataIn? (bytes : List UInt8) : Option (List UInt8) :=
  match _h : nextMarker? bytes with
  | none => none
  | some (marker, rest) =>
    if standsAlone marker then dataIn? rest
    else if marker = 0xD8 ∨ marker = 0xD9 then none
    else
      let length := Binary.number .big (rest.take 2)
      if rest.length < 2 ∨ length < 2 ∨ rest.length < length then none
      else
        let segment := (rest.take length).drop 2
        if marker = 0xE1 ∧ label.isPrefixOf segment then some (segment.drop label.length)
        else dataIn? (rest.drop length)
termination_by bytes.length
decreasing_by
  · exact length_of_nextMarker? _h
  · have := length_of_nextMarker? _h
    simp only [List.length_drop]
    omega

def data? (file : List UInt8) : Option (List UInt8) :=
  match file with
  | 0xFF :: 0xD8 :: rest => if rest.head? = some 0xFF then dataIn? rest else none
  | _ => none

end Relabel.Picture.Jpeg
