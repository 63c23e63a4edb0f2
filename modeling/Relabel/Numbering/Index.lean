import Relabel.Numbering.System

/-!
# Indexes

An index gives the numbers start, start + step, start + 2 · step and so on, without the ones that
lie in a range to be skipped. Numbers have 64 bits: where no free number is left, the last one
before the limit is given again.
-/

namespace Relabel

structure SkipRange where
  least : Int
  greatest : Int
  least_le_greatest : least ≤ greatest
deriving DecidableEq, Repr

namespace SkipRange

def between (a b : Int) : SkipRange := ⟨min a b, max a b, by omega⟩

def contains (r : SkipRange) (value : Int) : Bool := r.least ≤ value && value ≤ r.greatest

theorem contains_iff {r : SkipRange} {value : Int} :
    r.contains value = true ↔ r.least ≤ value ∧ value ≤ r.greatest := by
  simp [contains]

end SkipRange

structure Index where
  start : Int
  step : Int
  width : Nat
  system : NumberSystem
  skip : List SkipRange
  /-- The group whose text tells apart the files that are counted on their own. -/
  group : Option Nat
deriving DecidableEq, Repr

namespace Index

def largest : Int := 9223372036854775807

def widest : Nat := 255

def blocked? (index : Index) (value : Int) : Option SkipRange :=
  index.skip.find? (·.contains value)

/-- The first number on the way from `value` that lies behind a range around it. -/
def behind (index : Index) (value : Int) (r : SkipRange) : Int :=
  value + ((r.greatest - value) / index.step + 1) * index.step

/-- Crosses up to so many ranges. -/
def skipForward (index : Index) : Nat → Int → Int
  | 0, value => value
  | jumps + 1, value =>
    match index.blocked? value with
    | none => value
    | some r =>
      -- Beyond the limit there is nothing to give, so the search stays where it is.
      let next := index.behind value r
      if next ≤ largest then skipForward index jumps next else value

/-- The first free number from `value` on. A range that has been crossed stays behind, so there
are at most as many jumps as ranges. -/
def nextFree (index : Index) (value : Int) : Int := index.skipForward index.skip.length value

def render (index : Index) (value : Int) : Text := index.system.render index.width value

end Index

end Relabel
