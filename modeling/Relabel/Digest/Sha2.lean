import Relabel.Digest.Words

/-!
# SHA-2

The four digests of the family work alike, two of them on words of 32 bits and two on words of 64.
The constants are the fractional bits of roots of the first primes: the shorter words take the
upper half of the cube roots, and their start values either half of the square roots.
-/

namespace Relabel.Digest

def cubeRoots : List Nat := [
  0x428a2f98d728ae22, 0x7137449123ef65cd, 0xb5c0fbcfec4d3b2f, 0xe9b5dba58189dbbc,
  0x3956c25bf348b538, 0x59f111f1b605d019, 0x923f82a4af194f9b, 0xab1c5ed5da6d8118,
  0xd807aa98a3030242, 0x12835b0145706fbe, 0x243185be4ee4b28c, 0x550c7dc3d5ffb4e2,
  0x72be5d74f27b896f, 0x80deb1fe3b1696b1, 0x9bdc06a725c71235, 0xc19bf174cf692694,
  0xe49b69c19ef14ad2, 0xefbe4786384f25e3, 0x0fc19dc68b8cd5b5, 0x240ca1cc77ac9c65,
  0x2de92c6f592b0275, 0x4a7484aa6ea6e483, 0x5cb0a9dcbd41fbd4, 0x76f988da831153b5,
  0x983e5152ee66dfab, 0xa831c66d2db43210, 0xb00327c898fb213f, 0xbf597fc7beef0ee4,
  0xc6e00bf33da88fc2, 0xd5a79147930aa725, 0x06ca6351e003826f, 0x142929670a0e6e70,
  0x27b70a8546d22ffc, 0x2e1b21385c26c926, 0x4d2c6dfc5ac42aed, 0x53380d139d95b3df,
  0x650a73548baf63de, 0x766a0abb3c77b2a8, 0x81c2c92e47edaee6, 0x92722c851482353b,
  0xa2bfe8a14cf10364, 0xa81a664bbc423001, 0xc24b8b70d0f89791, 0xc76c51a30654be30,
  0xd192e819d6ef5218, 0xd69906245565a910, 0xf40e35855771202a, 0x106aa07032bbd1b8,
  0x19a4c116b8d2d0c8, 0x1e376c085141ab53, 0x2748774cdf8eeb99, 0x34b0bcb5e19b48a8,
  0x391c0cb3c5c95a63, 0x4ed8aa4ae3418acb, 0x5b9cca4f7763e373, 0x682e6ff3d6b2b8a3,
  0x748f82ee5defb2fc, 0x78a5636f43172f60, 0x84c87814a1f0ab72, 0x8cc702081a6439ec,
  0x90befffa23631e28, 0xa4506cebde82bde9, 0xbef9a3f7b2c67915, 0xc67178f2e372532b,
  0xca273eceea26619c, 0xd186b8c721c0c207, 0xeada7dd6cde0eb1e, 0xf57d4f7fee6ed178,
  0x06f067aa72176fba, 0x0a637dc5a2c898a6, 0x113f9804bef90dae, 0x1b710b35131c471b,
  0x28db77f523047d84, 0x32caab7b40c72493, 0x3c9ebe0a15c9bebc, 0x431d67c49c100d4c,
  0x4cc5d4becb3e42b6, 0x597f299cfc657e2a, 0x5fcb6fab3ad6faec, 0x6c44198c4a475817]

def squareRoots : List Nat := [
  0x6a09e667f3bcc908, 0xbb67ae8584caa73b, 0x3c6ef372fe94f82b, 0xa54ff53a5f1d36f1,
  0x510e527fade682d1, 0x9b05688c2b3e6c1f, 0x1f83d9abfb41bd6b, 0x5be0cd19137e2179]

def laterSquareRoots : List Nat := [
  0xcbbb9d5dc1059ed8, 0x629a292a367cd507, 0x9159015a3070dd17, 0x152fecd8f70e5939,
  0x67332667ffc00b31, 0x8eb44a8768581511, 0xdb0c2e0d64f98fa7, 0x47b5481dbefa4fa4]

/-- Three amounts by which a word is rotated, or shifted in the last place. -/
structure Amounts where
  first : Nat
  second : Nat
  third : Nat
deriving DecidableEq, Repr

namespace Amounts

def rotations (r : Amounts) (x : BitVec w) : BitVec w :=
  x.rotateRight r.first ^^^ x.rotateRight r.second ^^^ x.rotateRight r.third

def rotationsAndShift (r : Amounts) (x : BitVec w) : BitVec w :=
  x.rotateRight r.first ^^^ x.rotateRight r.second ^^^ (x >>> r.third)

end Amounts

/-- What tells the digests on words of `w` bits apart from others. -/
structure Sha2 (w : Nat) where
  constants : List (BitVec w)
  /-- How the first and the fifth word of the state are mixed. -/
  upper : Amounts
  lower : Amounts
  /-- How new words of the message are made. -/
  early : Amounts
  late : Amounts

structure Sha2State (w : Nat) where
  a : BitVec w
  b : BitVec w
  c : BitVec w
  d : BitVec w
  e : BitVec w
  f : BitVec w
  g : BitVec w
  h : BitVec w
deriving DecidableEq, Repr

namespace Sha2State

def ofWords : List (BitVec w) → Sha2State w
  | [a, b, c, d, e, f, g, h] => ⟨a, b, c, d, e, f, g, h⟩
  | _ => ⟨0, 0, 0, 0, 0, 0, 0, 0⟩

def words (s : Sha2State w) : List (BitVec w) := [s.a, s.b, s.c, s.d, s.e, s.f, s.g, s.h]

def add (s t : Sha2State w) : Sha2State w :=
  ⟨s.a + t.a, s.b + t.b, s.c + t.c, s.d + t.d, s.e + t.e, s.f + t.f, s.g + t.g, s.h + t.h⟩

end Sha2State

namespace Sha2

def words32 : Sha2 32 where
  constants := (cubeRoots.take 64).map fun k => BitVec.ofNat 32 (k >>> 32)
  upper := ⟨2, 13, 22⟩
  lower := ⟨6, 11, 25⟩
  early := ⟨7, 18, 3⟩
  late := ⟨17, 19, 10⟩

def words64 : Sha2 64 where
  constants := cubeRoots.map (BitVec.ofNat 64)
  upper := ⟨28, 34, 39⟩
  lower := ⟨14, 18, 41⟩
  early := ⟨1, 8, 7⟩
  late := ⟨19, 61, 6⟩

def round (sha : Sha2 w) (s : Sha2State w) (constant word : BitVec w) : Sha2State w :=
  let choice := (s.e &&& s.f) ^^^ (~~~s.e &&& s.g)
  let majority := (s.a &&& s.b) ^^^ (s.a &&& s.c) ^^^ (s.b &&& s.c)
  let new := s.h + sha.lower.rotations s.e + choice + constant + word
  ⟨new + sha.upper.rotations s.a + majority, s.a, s.b, s.c, s.d + new, s.e, s.f, s.g⟩

/-- The word after sixteen words of the message. -/
def nextWord (sha : Sha2 w) (window : List (BitVec w)) : BitVec w :=
  window.getD 0 0 + sha.early.rotationsAndShift (window.getD 1 0) + window.getD 9 0 +
    sha.late.rotationsAndShift (window.getD 14 0)

def rounds (sha : Sha2 w) (s : Sha2State w) (window : List (BitVec w)) :
    List (BitVec w) → Sha2State w
  | [] => s
  | constant :: rest =>
    rounds sha (sha.round s constant (window.headD 0)) (window.tail ++ [sha.nextWord window]) rest

def compress (sha : Sha2 w) (s : Sha2State w) (block : List UInt8) : Sha2State w :=
  let words := (Binary.parts (w / 8) block).map fun bytes =>
    BitVec.ofNat w (Binary.number .big bytes)
  s.add (sha.rounds s words sha.constants)

def padded (w : Nat) (message : List UInt8) : List UInt8 :=
  let block := 2 * w
  let tail := w / 4
  let zeros := (block - (message.length + 1 + tail) % block) % block
  message ++ 0x80 :: List.replicate zeros 0 ++ (bytesOf tail (8 * message.length)).reverse

def finalState (sha : Sha2 w) (start : List (BitVec w)) (message : List UInt8) : Sha2State w :=
  (Binary.parts (2 * w) (padded w message)).foldl sha.compress (.ofWords start)

def digest (sha : Sha2 w) (start : List (BitVec w)) (length : Nat) (message : List UInt8) :
    List UInt8 :=
  ((sha.finalState start message).words.flatMap
    fun word => (bytesOf (w / 8) word.toNat).reverse).take length

end Sha2

def sha224 : List UInt8 → List UInt8 :=
  Sha2.words32.digest (laterSquareRoots.map (BitVec.ofNat 32)) 28

def sha256 : List UInt8 → List UInt8 :=
  Sha2.words32.digest (squareRoots.map fun h => BitVec.ofNat 32 (h >>> 32)) 32

def sha384 : List UInt8 → List UInt8 :=
  Sha2.words64.digest (laterSquareRoots.map (BitVec.ofNat 64)) 48

def sha512 : List UInt8 → List UInt8 :=
  Sha2.words64.digest (squareRoots.map (BitVec.ofNat 64)) 64

end Relabel.Digest
