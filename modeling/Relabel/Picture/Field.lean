import Relabel.Number.FloatingText
import Relabel.Text.Blank
import Relabel.Text.Utf8

/-!
# Fields of pictures

A field of the data in a picture has a tag and a list of values of one type. How it is told
depends on the tag: lengths and apertures as decimal numbers, exposure times as fractions of a
second, and all other values as they are stored.
-/

namespace Relabel.Picture

inductive Values
  | unsigned (values : List Nat)
  | texts (values : List (List UInt8))
  | ratios (values : List (Nat × Nat))
  | signed (values : List Int)
  | raw (bytes : List UInt8)
  | signedRatios (values : List (Int × Int))
  | floats (format : FloatFormat) (values : List Floating)
  /-- Values of a type that is not known, from an offset on. -/
  | unknown (type count offset : Nat)
deriving DecidableEq, Repr

inductive Section
  | image
  | camera
  | position
  | interoperability
deriving DecidableEq, Repr

structure Tag where
  place : Section
  number : Nat
deriving DecidableEq, Repr

structure Field where
  tag : Tag
  /-- Which of the pictures in the file the field describes. -/
  picture : Nat
  values : Values
deriving DecidableEq, Repr

def listed (texts : List Text) : Text := List.intercalate ", ".toList texts

def ratioText (ratio : Nat × Nat) : Text :=
  Text.decimal ratio.1 ++ '/' :: Text.decimal ratio.2

def signedRatioText (ratio : Int × Int) : Text :=
  Text.integer ratio.1 ++ '/' :: Text.integer ratio.2

def hexadecimal (n : Nat) : Text := Nat.toDigits 16 n

def byteText (b : UInt8) : Text := Text.zeroPadded 2 (hexadecimal b.toNat)

def quotedByte (b : UInt8) : Text :=
  if b = 0x22 ∨ b = 0x5C then ['\\', Char.ofNat b.toNat]
  else if 0x20 ≤ b ∧ b ≤ 0x7E then [Char.ofNat b.toNat]
  else '\\' :: 'x' :: byteText b

def quoted (bytes : List UInt8) : Text := '"' :: bytes.flatMap quotedByte ++ ['"']

def quotient (a b : Int) : Floating :=
  Floating.divide .double (Floating.ofInt .double a) (Floating.ofInt .double b)

def quotientText (a b : Int) : Text := (quotient a b).text .double

namespace Values

def text : Values → Text
  | unsigned values => listed (values.map Text.decimal)
  | texts values => listed (values.map quoted)
  | ratios values => listed (values.map ratioText)
  | signed values => listed (values.map Text.integer)
  | raw bytes => "0x".toList ++ bytes.flatMap byteText
  | signedRatios values => listed (values.map signedRatioText)
  | floats format values => listed (values.map (Floating.text format))
  | unknown type count offset =>
    "unknown value (type=".toList ++ Text.decimal type ++ ", count=".toList ++
      Text.decimal count ++ ", offset=0x".toList ++ hexadecimal offset ++ [')']

def decimalText : Values → Text
  | ratios values => listed (values.map fun r => quotientText r.1 r.2)
  | signedRatios values => listed (values.map fun r => quotientText r.1 r.2)
  | values => values.text

/-- The first fraction as a time: below one second as a part of it. -/
def exposureText : Values → Text
  | ratios ((a, b) :: rest) =>
    if b ≤ a then quotientText a b
    else if a ≠ 0 then '1' :: '/' :: quotientText b a
    else (ratios ((a, b) :: rest)).text
  | values => values.text

def unsigned? : Values → Option Nat
  | unsigned (n :: _) => some n
  | _ => none

def isPadding (c : Char) : Bool := c == '\u0000' || isBlank c

def unpadded? (text : Text) : Option Text :=
  let text := ((text.dropWhile isPadding).reverse.dropWhile isPadding).reverse
  if text = [] then none else some text

def text? : Values → Option Text
  | texts values => values.head?.bind fun bytes => unpadded? (Utf8.decodeLossy bytes)
  | values => unpadded? values.text

end Values

end Relabel.Picture
