import Relabel.Digest.Words

/-!
# BLAKE3

A message is cut into chunks, which are the leaves of a binary tree. Every node of the tree is a
block with the settings to compress it by; its words go into the node above it, and those of the
root are the digest.
-/

namespace Relabel.Digest.Blake3

abbrev Word := BitVec 32

def startWords : List Word := [
  0x6a09e667, 0xbb67ae85, 0x3c6ef372, 0xa54ff53a, 0x510e527f, 0x9b05688c, 0x1f83d9ab, 0x5be0cd19]

def chunkStart : Nat := 1
def chunkEnd : Nat := 2
def parentNode : Nat := 4
def rootNode : Nat := 8

structure Block where
  chaining : List Word
  message : List Word
  counter : Nat
  length : Nat
  flags : Nat
deriving DecidableEq, Repr

structure Rows where
  a : List Word
  b : List Word
  c : List Word
  d : List Word
deriving DecidableEq, Repr

def addRows : List Word → List Word → List Word := List.zipWith (· + ·)

def mixRows (amount : Nat) : List Word → List Word → List Word :=
  List.zipWith fun x y => (x ^^^ y).rotateRight amount

namespace Rows

def halfMix (s : Rows) (message : List Word) (outer inner : Nat) : Rows :=
  let a := addRows (addRows s.a s.b) message
  let d := mixRows outer s.d a
  let c := addRows s.c d
  ⟨a, mixRows inner s.b c, c, d⟩

def mix (s : Rows) (first second : List Word) : Rows :=
  (s.halfMix first 16 12).halfMix second 8 7

def diagonals (s : Rows) : Rows := ⟨s.a, s.b.rotateLeft 1, s.c.rotateLeft 2, s.d.rotateLeft 3⟩

def undiagonals (s : Rows) : Rows := ⟨s.a, s.b.rotateLeft 3, s.c.rotateLeft 2, s.d.rotateLeft 1⟩

end Rows

def everyOther : List α → List α
  | [] => []
  | [item] => [item]
  | item :: _ :: rest => item :: everyOther rest

def round (s : Rows) (message : List Word) : Rows :=
  let columns := message.take 8
  let diagonals := message.drop 8
  ((s.mix (everyOther columns) (everyOther columns.tail)).diagonals.mix
    (everyOther diagonals) (everyOther diagonals.tail)).undiagonals

def schedule : List Nat := [2, 6, 3, 10, 7, 0, 4, 13, 1, 11, 12, 5, 9, 14, 15, 8]

def rounds : Nat → Rows → List Word → Rows
  | 0, s, _ => s
  | count + 1, s, message => rounds count (round s message) (schedule.map (message.getD · 0))

def compress (block : Block) : List Word :=
  let s := rounds 7
    ⟨block.chaining.take 4, block.chaining.drop 4, startWords.take 4,
      [BitVec.ofNat 32 block.counter, BitVec.ofNat 32 (block.counter >>> 32),
        BitVec.ofNat 32 block.length, BitVec.ofNat 32 block.flags]⟩
    block.message
  List.zipWith (· ^^^ ·) (s.a ++ s.b) (s.c ++ s.d)

def wordsOf (bytes : List UInt8) : List Word :=
  (Binary.parts 4 (bytes ++ List.replicate (64 - bytes.length) 0)).map fun bytes =>
    BitVec.ofNat 32 (Binary.number .little bytes)

/-- The last block of a chunk, given the blocks that are left of it. -/
def chunkFrom (chaining : List Word) (counter flags : Nat) : List (List UInt8) → Block
  | [] => ⟨chaining, wordsOf [], counter, 0, flags + chunkEnd⟩
  | [bytes] => ⟨chaining, wordsOf bytes, counter, bytes.length, flags + chunkEnd⟩
  | bytes :: rest =>
    chunkFrom (compress ⟨chaining, wordsOf bytes, counter, bytes.length, flags⟩) counter 0 rest

def chunk (counter : Nat) (bytes : List UInt8) : Block :=
  chunkFrom startWords counter chunkStart (Binary.parts 64 bytes)

def parent (left right : Block) : Block :=
  ⟨startWords, compress left ++ compress right, 0, 64, parentNode⟩

def level : List Block → List Block
  | left :: right :: rest => parent left right :: level rest
  | nodes => nodes

def root : Nat → List Block → Block
  -- The root of a tree of at most so many levels.
  | _, [] => chunk 0 []
  | _, [node] => node
  | 0, node :: _ => node
  | levels + 1, nodes => root levels (level nodes)

def digest (message : List UInt8) : List UInt8 :=
  let chunks := (Binary.parts 1024 message).zipIdx.map fun (bytes, counter) => chunk counter bytes
  let node := root chunks.length chunks
  (compress { node with flags := node.flags + rootNode }).flatMap
    fun word => bytesOf 4 word.toNat

end Relabel.Digest.Blake3
