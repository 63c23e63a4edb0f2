import Relabel.Text.Basic

/-!
# Texts in bytes

Texts are stored in UTF-8. Bytes are read strictly, or leniently with a replacement character for
every longest part that no character could go on from.
-/

namespace Relabel

namespace Text

def toUtf8 (text : Text) : ByteArray := (String.ofList text).toUTF8

def ofUtf8? (bytes : ByteArray) : Option Text := (String.fromUTF8? bytes).map String.toList

theorem ofUtf8?_toUtf8 (text : Text) : ofUtf8? text.toUtf8 = some text := by
  simp only [ofUtf8?, toUtf8, String.toUTF8_eq_toByteArray, String.fromUTF8?, String.isValidUTF8,
    dite_true, Option.map_some, String.fromUTF8]
  exact congrArg some String.toList_ofList

end Text

namespace Utf8

def replacement : Char := '\uFFFD'

def lead? (byte : Nat) : Option (Nat × Nat × Nat) :=
  if byte < 0x80 then some (0, 0, 0)
  else if byte < 0xC2 then none
  else if byte < 0xE0 then some (1, 0x80, 0xBF)
  else if byte = 0xE0 then some (2, 0xA0, 0xBF)
  else if byte = 0xED then some (2, 0x80, 0x9F)
  else if byte < 0xF0 then some (2, 0x80, 0xBF)
  else if byte = 0xF0 then some (3, 0x90, 0xBF)
  else if byte < 0xF4 then some (3, 0x80, 0xBF)
  else if byte = 0xF4 then some (3, 0x80, 0x8F)
  else none

def payload (byte : Nat) : Nat → Nat
  | 0 => byte
  | 1 => byte % 0x20
  | 2 => byte % 0x10
  | _ => byte % 0x08

/-- Reads the bytes that are owed. The character and how many of the bytes belong to it. -/
def readRest (value used least greatest : Nat) : Nat → List UInt8 → Char × Nat
  | 0, _ => (Char.ofNat value, used)
  | _ + 1, [] => (replacement, used)
  | owed + 1, b :: rest =>
    if least ≤ b.toNat ∧ b.toNat ≤ greatest then
      readRest (value * 0x40 + b.toNat % 0x40) (used + 1) 0x80 0xBF owed rest
    else (replacement, used)

def readCharacter (first : UInt8) (rest : List UInt8) : Char × Nat :=
  match lead? first.toNat with
  | none => (replacement, 0)
  | some (owed, least, greatest) =>
    readRest (payload first.toNat owed) 0 least greatest owed rest

def decodeLossy : List UInt8 → Text
  | [] => []
  | first :: rest =>
    let (c, used) := readCharacter first rest
    c :: decodeLossy (rest.drop used)
termination_by bytes => bytes.length

end Utf8

end Relabel
