/-!
# Floating-point numbers

A floating-point number is a sign with an exact magnitude that its format can hold. Every
operation rounds its exact result once, to the nearest number of the format and between two of
them to the one whose last bit is zero.
-/

namespace Relabel

structure FloatFormat where
  /-- How many bits a number has. -/
  precision : Nat
  /-- The exponent of the last bit of the smallest numbers. -/
  least : Int
  /-- The exponent of the last bit of the largest numbers. -/
  greatest : Int
deriving DecidableEq, Repr

def power (base : Nat) (exponent : Int) : Rat :=
  if 0 ≤ exponent then (Nat.pow base exponent.toNat : Rat)
  else 1 / (Nat.pow base (-exponent).toNat : Rat)

def roundHalfEven (x : Rat) : Nat :=
  let whole := x.num.toNat / x.den
  let twice := 2 * (x.num.toNat % x.den)
  if x.den < twice ∨ (twice = x.den ∧ whole % 2 = 1) then whole + 1 else whole

namespace FloatFormat

def double : FloatFormat := ⟨53, -1074, 971⟩

def single : FloatFormat := ⟨24, -149, 104⟩

/-- The exponent of the last bit of the numbers around a magnitude. -/
def lastBit (f : FloatFormat) (x : Rat) : Int :=
  let guess := (x.num.toNat.log2 : Int) - x.den.log2
  let top := if power 2 guess ≤ x then guess else guess - 1
  max (top - (f.precision - 1)) f.least

def round? (f : FloatFormat) (x : Rat) : Option Rat :=
  let unit := power 2 (f.lastBit x)
  let rounded := unit * roundHalfEven (x / unit)
  if rounded < power 2 (f.greatest + f.precision) then some rounded else none

end FloatFormat

inductive Floating
  | finite (negative : Bool) (magnitude : Rat)
  | infinite (negative : Bool)
  | nan
deriving DecidableEq, Repr

namespace Floating

def round (f : FloatFormat) (negative : Bool) (magnitude : Rat) : Floating :=
  match f.round? magnitude with
  | some rounded => finite negative rounded
  | none => infinite negative

def ofInt (f : FloatFormat) (n : Int) : Floating := round f (n < 0) n.natAbs

def negate : Floating → Floating
  | finite negative magnitude => finite (!negative) magnitude
  | infinite negative => infinite (!negative)
  | nan => nan

def isInfinite : Floating → Bool
  | infinite _ => true
  | _ => false

def signed (negative : Bool) (magnitude : Rat) : Rat := if negative then -magnitude else magnitude

/-- The sum; it is a negative zero only if both numbers are. -/
def add (f : FloatFormat) : Floating → Floating → Floating
  | finite s x, finite t y =>
    let sum := signed s x + signed t y
    if sum = 0 then finite (s && t) 0
    else if sum < 0 then round f true (-sum)
    else round f false sum
  | infinite s, infinite t => if s = t then infinite s else nan
  | infinite s, finite .. => infinite s
  | finite .., infinite t => infinite t
  | _, _ => nan

def multiply (f : FloatFormat) : Floating → Floating → Floating
  | finite s x, finite t y => round f (s != t) (x * y)
  | infinite s, infinite t => infinite (s != t)
  | infinite s, finite t y => if y = 0 then nan else infinite (s != t)
  | finite s x, infinite t => if x = 0 then nan else infinite (s != t)
  | _, _ => nan

def divide (f : FloatFormat) : Floating → Floating → Floating
  | finite s x, finite t y =>
    if y ≠ 0 then round f (s != t) (x / y)
    else if x = 0 then nan
    else infinite (s != t)
  | infinite s, finite t _ => infinite (s != t)
  | finite s _, infinite t => finite (s != t) 0
  | _, _ => nan

/-- The number that bits denote: a sign, an exponent and what follows the first bit of the
magnitude. -/
def ofBits (f : FloatFormat) (exponentBits bits : Nat) : Floating :=
  let first := Nat.pow 2 (f.precision - 1)
  let exponents := Nat.pow 2 exponentBits
  let fraction := bits % first
  let exponent := bits / first % exponents
  let negative := bits / (first * exponents) % 2 == 1
  if exponent = 0 then finite negative (fraction * power 2 f.least)
  else if exponent = exponents - 1 then
    if fraction = 0 then infinite negative else nan
  else
    finite negative
      (((first + fraction : Nat) : Rat) * power 2 (f.least + exponent - 1))

end Floating

end Relabel
