import Relabel.Binary.Basic
import Relabel.Text.Utf8

/-!
# Texts in audio tags

A text in an audio tag begins with a byte that tells its encoding.
-/

namespace Relabel.Song

/-- The characters of UTF-16 code units, if no surrogate stands alone. -/
def fromUnits? : List Nat → Option Text
  | [] => some []
  | unit :: rest =>
    if unit < 0xD800 ∨ 0xE000 ≤ unit then (fromUnits? rest).map (Char.ofNat unit :: ·)
    else
      match rest with
      | low :: rest =>
        if unit < 0xDC00 ∧ 0xDC00 ≤ low ∧ low < 0xE000 then
          let value := 0x10000 + (unit - 0xD800) * 0x400 + (low - 0xDC00)
          (fromUnits? rest).map (Char.ofNat value :: ·)
        else none
      | [] => none

def units (order : ByteOrder) : List UInt8 → List Nat
  | a :: b :: rest => Binary.number order [a, b] :: units order rest
  | _ => []

def fromMarked? : List UInt8 → Option Text
  | [] => some []
  | 0xFF :: 0xFE :: rest => fromUnits? (units .little rest)
  | _ :: _ :: rest => fromUnits? (units .big rest)
  | [_] => none

def fromLatin (bytes : List UInt8) : Text := bytes.map fun b => Char.ofNat b.toNat

def text? : List UInt8 → Option Text
  | 0 :: rest => some (fromLatin rest)
  | 1 :: rest => fromMarked? rest
  | 2 :: rest => fromUnits? (units .big rest)
  | 3 :: rest => Text.ofUtf8? ⟨rest.toArray⟩
  | _ => none

end Relabel.Song
