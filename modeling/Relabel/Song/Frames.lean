import Relabel.Song.Encoding

/-!
# ID3 tags

A tag at the beginning of an audio file has a header and frames, of which those with texts are
read. A header that is not understood and a frame that cannot be read make the tag unreadable.
-/

namespace Relabel.Song

inductive Version
  | v23
  | v24
deriving DecidableEq, Repr

/-- A number that the lower seven bits of four bytes make up. -/
def syncSafe (bytes : List UInt8) : Nat :=
  let n := Binary.number .big bytes
  n % 0x100 ||| n % 0x10000 / 0x100 * 0x80 ||| n % 0x1000000 / 0x10000 * 0x4000 |||
    n / 0x1000000 * 0x200000

def hasFlag (flags mask : Nat) : Bool := flags &&& mask != 0

def resynchronized : List UInt8 → List UInt8
  | 0xFF :: 0x00 :: rest => 0xFF :: resynchronized rest
  | b :: rest => b :: resynchronized rest
  | [] => []

structure Header where
  version : Version
  unsynchronized : Bool
  extended : Bool
  size : Nat
deriving DecidableEq, Repr

structure Frame where
  name : Text
  text : Text
deriving DecidableEq, Repr

/-- What can come of a part of a file. -/
inductive Outcome (α : Type)
  | absent
  | unreadable
  | found (value : α)
deriving DecidableEq, Repr

def readHeader (bytes : List UInt8) : Outcome Header :=
  match bytes.take 10 with
  | [0x49, 0x44, 0x33, major, _, flags, a, b, c, d] =>
    let header (version : Version) : Outcome Header :=
      let flags := flags.toNat
      if flags % 0x10 ≠ 0 then .unreadable
      else
        .found ⟨version, version = .v23 && hasFlag flags 0x80, hasFlag flags 0x40,
          syncSafe [a, b, c, d]⟩
    if major = 3 then header .v23 else if major = 4 then header .v24 else .unreadable
  | _ => .absent

def extendedSize? (header : Header) (bytes : List UInt8) : Option Nat :=
  if !header.extended then some 0
  else
    let size := syncSafe (bytes.take 4)
    if (bytes.take 6).length < 6 ∨ size < 6 then none else some size

/-- Frames of other than plain texts, though their names begin alike. -/
def otherTexts : List Text := ["TXXX".toList, "TIPL".toList, "TMCL".toList]

def frame? (version : Version) (name : Text) (content : List UInt8) : Option (List Frame) :=
  if name.head? ≠ some 'T' ∨ name ∈ otherTexts then some []
  else
    (text? content).map fun text =>
      [⟨name, if version = .v23 then text.map fun c => if c = '/' then '\u0000' else c else text⟩]

/-- Where the content of a frame begins behind its header, how long it is, and whether zeros have
been put into it. Compressed, encrypted and grouped frames are not read. -/
def contentPlace? (version : Version) (flags size : Nat) (rest : List UInt8) :
    Option (Nat × Nat × Bool) :=
  match version with
  | .v23 => if hasFlag flags 0xE0 then none else some (0, size, false)
  | .v24 =>
    if hasFlag flags 0x4C then none
    else if !hasFlag flags 0x01 then some (0, size, hasFlag flags 0x02)
    else if (rest.take 4).length < 4 then none
    else some (4, size - 4, hasFlag flags 0x02)

def frameSize (version : Version) (bytes : List UInt8) : Nat :=
  match version with
  | .v23 => Binary.number .big bytes
  | .v24 => syncSafe bytes

/-- The frames in the first `left` bytes; a byte of zeros where a name should begin ends them. -/
def frames? (version : Version) (left : Nat) (bytes : List UInt8) : Option (List Frame) :=
  if left = 0 ∨ bytes.head? = some 0 ∨ bytes.length < 10 then some []
  else
    let rest := bytes.drop 10
    match Text.ofUtf8? ⟨(bytes.take 4).toArray⟩ with
    | none => none
    | some name =>
      let size := frameSize version ((bytes.drop 4).take 4)
      match contentPlace? version (Binary.number .big ((bytes.drop 8).take 2)) size rest with
      | none => none
      | some (skip, length, unsynchronized) =>
        let content := (rest.drop skip).take length
        let content := if unsynchronized then resynchronized content else content
        match frame? version name content with
        | none => none
        | some frames =>
          (frames? version (left - (10 + size)) (rest.drop (skip + length))).map (frames ++ ·)
termination_by bytes.length
decreasing_by
  simp only [List.length_drop]
  omega

def readFrames (file : List UInt8) : Outcome (List Frame) :=
  match readHeader file with
  | .absent => .absent
  | .unreadable => .unreadable
  | .found header =>
    let rest := file.drop 10
    match extendedSize? header rest with
    | none => .unreadable
    | some size =>
      let rest := rest.drop size
      let rest := if header.unsynchronized then resynchronized rest else rest
      match frames? header.version (header.size - size) rest with
      | some frames => .found frames
      | none => .unreadable

end Relabel.Song
