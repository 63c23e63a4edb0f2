/-!
# Numbers in bytes

Parts of a file, and the numbers that their bytes denote in either byte order.
-/

namespace Relabel

inductive ByteOrder
  /-- The first byte has the highest weight. -/
  | big
  /-- The first byte has the lowest weight. -/
  | little
deriving DecidableEq, Repr

namespace Binary

def bigNumber (bytes : List UInt8) : Nat := bytes.foldl (fun value b => value * 256 + b.toNat) 0

def number (order : ByteOrder) (bytes : List UInt8) : Nat :=
  match order with
  | .big => bigNumber bytes
  | .little => bigNumber bytes.reverse

def toSigned (bits n : Nat) : Int :=
  if n < Nat.pow 2 (bits - 1) then n else (n : Int) - Nat.pow 2 bits

def slice? (data : ByteArray) (offset length : Nat) : Option (List UInt8) :=
  if offset + length ≤ data.size then
    some (data.extract offset (offset + length)).data.toList
  else none

def number? (order : ByteOrder) (data : ByteArray) (offset length : Nat) : Option Nat :=
  (slice? data offset length).map (number order)

def parts (size : Nat) (items : List α) : List (List α) :=
  match items with
  | [] => []
  | item :: rest => (item :: rest.take (size - 1)) :: parts size (rest.drop (size - 1))
termination_by items.length

end Binary

end Relabel
