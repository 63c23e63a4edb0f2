import Relabel.Binary.Basic
import Relabel.Text.Numeral

/-!
# Words of digests

Digests are computed on words of a fixed number of bits, which are made of bytes and turned into
bytes again, and written in hexadecimal digits.
-/

namespace Relabel.Digest

def bytesOf : Nat → Nat → List UInt8
  | 0, _ => []
  | count + 1, value => UInt8.ofNat value :: bytesOf count (value / 256)

def hexByte (b : UInt8) : Text := Text.zeroPadded 2 (Nat.toDigits 16 b.toNat)

def hex (bytes : List UInt8) : Text := bytes.flatMap hexByte

end Relabel.Digest
