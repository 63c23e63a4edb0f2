/-!
# Sets of characters by code point

A property of characters is a list of ranges of code points, or of ranges with a stride where
upper and lower case alternate.
-/

namespace Relabel

def inRanges (ranges : List (Nat × Nat)) (c : Char) : Bool :=
  ranges.any fun r => r.1 ≤ c.toNat && c.toNat ≤ r.2

/-- The code points `first`, `first + stride`, … up to `last`. -/
structure CodeStride where
  first : Nat
  last : Nat
  stride : Nat

def CodeStride.covers (s : CodeStride) (n : Nat) : Bool :=
  s.first ≤ n && n ≤ s.last && (n - s.first) % s.stride == 0

def inStrides (strides : List CodeStride) (c : Char) : Bool :=
  strides.any (·.covers c.toNat)

theorem inRanges_iff {ranges : List (Nat × Nat)} {c : Char} :
    inRanges ranges c = true ↔ ∃ r ∈ ranges, r.1 ≤ c.toNat ∧ c.toNat ≤ r.2 := by
  simp [inRanges]

end Relabel
