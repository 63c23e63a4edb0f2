import Relabel.Batch.Order
import Relabel.Json.Value

/-!
# Reading JSON

Texts are read strictly. The members of an object come in the order of their keys, and of members
with one key the last counts; values may be nested a limited number of levels.
-/

namespace Relabel

def JsonMembers.insert (key : Text) (value : Json) : JsonMembers → JsonMembers
  | .nil => .cons key value .nil
  | .cons other held rest =>
    match Text.order key other with
    | .lt => .cons key value (.cons other held rest)
    | .eq => .cons key value rest
    | .gt => .cons other held (rest.insert key value)

namespace JsonReader

def mostLevels : Nat := 127

def isBlank (c : Char) : Bool := c == ' ' || c == '\n' || c == '\t' || c == '\r'

def skip (text : Text) : Text := text.dropWhile isBlank

/-- The largest significand of a number; the digits behind the one that would be too many do not
count. -/
def largestSignificand : Nat := 18446744073709551615

/-- Digits that are taken into a significand as long as it does not grow too large, and how many
of them are taken. -/
def takeDigits (significand taken : Nat) : Text → Nat × Nat × Text
  | [] => (significand, taken, [])
  | c :: rest =>
    let next := significand * 10 + (c.toNat - '0'.toNat)
    if c.isDigit ∧ next ≤ largestSignificand then takeDigits next (taken + 1) rest
    else (significand, taken, c :: rest)

def scale (exponent : Int) (x : Floating) : Option Floating :=
  let tens (n : Nat) : Floating := Floating.ofInt .double (Nat.pow 10 n)
  if 308 < exponent then if x = .finite false 0 then some x else none
  else if 0 ≤ exponent then
    let scaled := Floating.multiply .double x (tens exponent.toNat)
    if scaled.isInfinite then none else some scaled
  else if -308 ≤ exponent then some (Floating.divide .double x (tens (-exponent).toNat))
  else if -616 ≤ exponent then
    some (Floating.divide .double (Floating.divide .double x (tens 308))
      (tens (-exponent - 308).toNat))
  else some (.finite false 0)

def floating (negative : Bool) (significand : Nat) (exponent : Int) : Option Json :=
  (scale exponent (Floating.ofInt .double significand)).map fun x =>
    .number (.floating (if negative then x.negate else x))

/-- The number from its significand on; `exponent` is what the digits so far have left open. -/
def readExponent? (negative : Bool) (significand : Nat) (exponent : Int) (text : Text) :
    Option (Json × Text) :=
  match text with
  | e :: rest =>
    if e = 'e' ∨ e = 'E' then
      let (minus, rest) := match rest with
        | '-' :: rest => (true, rest)
        | '+' :: rest => (false, rest)
        | _ => (false, rest)
      match Text.number? (rest.takeWhile Char.isDigit) with
      | some n =>
        (floating negative significand (if minus then exponent - n else exponent + n)).map
          (·, rest.dropWhile Char.isDigit)
      | none => none
    else (floating negative significand exponent).map (·, text)
  | [] => (floating negative significand exponent).map (·, text)

def readNumber? (negative : Bool) (text : Text) : Option (Json × Text) :=
  match text with
  | '0' :: d :: rest => if d.isDigit then none else readFrom 0 0 (d :: rest)
  | c :: rest => if c.isDigit then readWhole (c :: rest) else none
  | [] => none
where
  /-- The number behind the digits before the point, of which so many do not count. -/
  readFrom (significand dropped : Nat) (text : Text) : Option (Json × Text) :=
    match text with
    | '.' :: rest =>
      let (significand, taken, others) := takeDigits significand 0 rest
      if rest.takeWhile Char.isDigit = [] then none
      else readExponent? negative significand (dropped - taken) (others.dropWhile Char.isDigit)
    | 'e' :: _ | 'E' :: _ => readExponent? negative significand dropped text
    | _ =>
      if dropped ≠ 0 ∨ (negative ∧ (significand = 0 ∨ 9223372036854775808 < significand)) then
        (floating negative significand dropped).map (·, text)
      else
        some (.number (.whole (if negative then -(significand : Int) else significand)), text)
  readWhole (text : Text) : Option (Json × Text) :=
    let (significand, _, rest) := takeDigits 0 0 text
    readFrom significand (rest.takeWhile Char.isDigit).length (rest.dropWhile Char.isDigit)

def unit? (text : Text) : Option Nat :=
  if (text.take 4).length = 4 then Text.hexNumber? (text.take 4) else none

def escape? (c : Char) : Option Char :=
  [('"', '"'), ('\\', '\\'), ('/', '/'), ('b', '\u0008'), ('f', '\u000C'), ('n', '\n'),
    ('r', '\r'), ('t', '\t')].lookup c

def readText? : Nat → Text → Option (Text × Text)
  -- The text up to the closing quote, with one step for every character.
  | 0, _ => none
  | steps + 1, text =>
    match text with
    | '"' :: rest => some ([], rest)
    | '\\' :: 'u' :: rest => do
      let unit ← unit? rest
      let rest := rest.drop 4
      if unit < 0xD800 ∨ 0xE000 ≤ unit then
        (readText? steps rest).map fun (t, rest) => (Char.ofNat unit :: t, rest)
      else
        let low ← (Text.after? "\\u".toList rest).bind unit?
        if unit < 0xDC00 ∧ 0xDC00 ≤ low ∧ low < 0xE000 then
          let value := 0x10000 + (unit - 0xD800) * 0x400 + (low - 0xDC00)
          (readText? steps (rest.drop 6)).map fun (t, rest) => (Char.ofNat value :: t, rest)
        else none
    | '\\' :: c :: rest => do
      let c ← escape? c
      (readText? steps rest).map fun (t, rest) => (c :: t, rest)
    | c :: rest =>
      if c.toNat < 0x20 ∨ c = '\\' then none
      else (readText? steps rest).map fun (t, rest) => (c :: t, rest)
    | [] => none

def readWord? (text : Text) : Option (Json × Text) :=
  [("null", Json.null), ("true", .bool true), ("false", .bool false)].findSome? fun (word, value) =>
    (Text.after? word.toList text).map (value, ·)

mutual
def readValue? (steps levels : Nat) (text : Text) : Option (Json × Text) :=
  -- Reads a value, with one step for every part of it that is nested or follows.
  match steps with
  | 0 => none
  | steps + 1 =>
    match skip text with
    | '"' :: rest => (readText? (rest.length + 1) rest).map fun (t, rest) => (.text t, rest)
    | '-' :: rest => readNumber? true rest
    | '[' :: rest =>
      match levels, skip rest with
      | 0, _ => none
      | _ + 1, ']' :: rest => some (.array .nil, rest)
      | levels + 1, rest => (readItems? steps levels rest).map fun (i, rest) => (.array i, rest)
    | '{' :: rest =>
      match levels, skip rest with
      | 0, _ => none
      | _ + 1, '}' :: rest => some (.object .nil, rest)
      | levels + 1, rest =>
        (readMembers? steps levels .nil rest).map fun (m, rest) => (.object m, rest)
    | c :: rest => if c.isDigit then readNumber? false (c :: rest) else readWord? (c :: rest)
    | [] => none
def readItems? (steps levels : Nat) (text : Text) : Option (JsonItems × Text) :=
  match steps with
  | 0 => none
  | steps + 1 => do
    let (item, rest) ← readValue? steps levels text
    match skip rest with
    | ']' :: rest => some (.cons item .nil, rest)
    | ',' :: rest =>
      (readItems? steps levels rest).map fun (items, rest) => (.cons item items, rest)
    | _ => none
def readMembers? (steps levels : Nat) (before : JsonMembers) (text : Text) :
    Option (JsonMembers × Text) :=
  match steps with
  | 0 => none
  | steps + 1 =>
    match skip text with
    | '"' :: rest => do
      let (key, rest) ← readText? (rest.length + 1) rest
      let rest ← Text.after? [':'] (skip rest)
      let (value, rest) ← readValue? steps levels rest
      match skip rest with
      | '}' :: rest => some (before.insert key value, rest)
      | ',' :: rest => readMembers? steps levels (before.insert key value) rest
      | _ => none
    | _ => none
end

end JsonReader

def Json.read? (text : Text) : Option Json :=
  match JsonReader.readValue? (2 * text.length + 2) JsonReader.mostLevels text with
  | some (value, rest) => if JsonReader.skip rest = [] then some value else none
  | none => none

end Relabel
