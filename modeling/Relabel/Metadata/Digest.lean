import Relabel.Text.Basic

/-!
# Digests

The algorithms by which a file's contents may be told in a name.
-/

namespace Relabel

inductive DigestAlgorithm
  | sha224
  | sha256
  | sha384
  | sha512
  | blake3
deriving DecidableEq, Repr

namespace DigestAlgorithm

def all : List DigestAlgorithm := [sha224, sha256, sha384, sha512, blake3]

def label : DigestAlgorithm → Text
  | sha224 => "sha224".toList
  | sha256 => "sha256".toList
  | sha384 => "sha384".toList
  | sha512 => "sha512".toList
  | blake3 => "blake3".toList

def ofLabel? (label : Text) : Option DigestAlgorithm := all.find? (·.label = label)

theorem ofLabel?_label (a : DigestAlgorithm) : ofLabel? a.label = some a := by cases a <;> rfl

end DigestAlgorithm

end Relabel
