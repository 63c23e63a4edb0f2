import Relabel.Number.FloatingText

/-!
# JSON values

JSON values and how they are written, with or without line breaks. The members of an object keep
the order in which they stand.
-/

namespace Relabel

inductive JsonNumber
  | whole (value : Int)
  | floating (value : Floating)
deriving DecidableEq, Repr

mutual
inductive Json
  | null
  | bool (value : Bool)
  | number (value : JsonNumber)
  | text (value : Text)
  | array (items : JsonItems)
  | object (members : JsonMembers)
inductive JsonItems
  | nil
  | cons (item : Json) (rest : JsonItems)
inductive JsonMembers
  | nil
  | cons (key : Text) (value : Json) (rest : JsonMembers)
end

def JsonItems.ofList : List Json → JsonItems
  | [] => nil
  | item :: rest => cons item (ofList rest)

def JsonMembers.ofList : List (Text × Json) → JsonMembers
  | [] => nil
  | (key, value) :: rest => cons key value (ofList rest)

def JsonMembers.toList : JsonMembers → List (Text × Json)
  | nil => []
  | cons key value rest => (key, value) :: rest.toList

namespace Decimal

def scientific (d : Decimal) : Text :=
  let digits := Text.decimal d.digits
  let point := (digits.length : Int) + d.exponent
  if 0 ≤ d.exponent ∧ point ≤ 16 then d.positional ++ ".0".toList
  else if -5 < point ∧ point ≤ 16 then d.positional
  else
    let fraction := if digits.length = 1 then [] else '.' :: digits.drop 1
    digits.take 1 ++ fraction ++ 'e' :: Text.integer (point - 1)

end Decimal

namespace JsonNumber

/-- With the fewest digits that tell the number; a tie goes to an even digit. -/
def spelling : JsonNumber → Text
  | whole value => Text.integer value
  | floating (.finite negative magnitude) =>
    Floating.withSign negative (Decimal.shortest .double .even magnitude).scientific
  | floating _ => "null".toList

end JsonNumber

namespace Json

def hexEscape (n : Nat) : Text := "\\u".toList ++ Text.zeroPadded 4 (Nat.toDigits 16 n)

def escaped (c : Char) : Text :=
  if c = '"' then "\\\"".toList
  else if c = '\\' then "\\\\".toList
  else if c = '\n' then "\\n".toList
  else if c = '\r' then "\\r".toList
  else if c = '\t' then "\\t".toList
  else if c = '\u0008' then "\\b".toList
  else if c = '\u000C' then "\\f".toList
  else if c.toNat < 0x20 then hexEscape c.toNat
  else [c]

def quoted (text : Text) : Text := '"' :: text.flatMap escaped ++ ['"']

def atom (b : Bool) : Text := if b then "true".toList else "false".toList

end Json

mutual
def Json.compact : Json → Text
  | .null => "null".toList
  | .bool value => Json.atom value
  | .number value => value.spelling
  | .text value => Json.quoted value
  | .array items => '[' :: items.compact ++ [']']
  | .object members => '{' :: members.compact ++ ['}']
def JsonItems.compact : JsonItems → Text
  | .nil => []
  | .cons item .nil => item.compact
  | .cons item rest => item.compact ++ ',' :: rest.compact
def JsonMembers.compact : JsonMembers → Text
  | .nil => []
  | .cons key value .nil => Json.quoted key ++ ':' :: value.compact
  | .cons key value rest => Json.quoted key ++ ':' :: value.compact ++ ',' :: rest.compact
end

def newLine (level : Nat) : Text := '\n' :: List.replicate (2 * level) ' '

mutual
def Json.pretty (level : Nat) : Json → Text
  | .array .nil => "[]".toList
  | .array items => '[' :: items.pretty (level + 1) ++ newLine level ++ [']']
  | .object .nil => ['{', '}']
  | .object members => '{' :: members.pretty (level + 1) ++ newLine level ++ ['}']
  | value => value.compact
def JsonItems.pretty (level : Nat) : JsonItems → Text
  | .nil => []
  | .cons item .nil => newLine level ++ item.pretty level
  | .cons item rest => newLine level ++ item.pretty level ++ ',' :: rest.pretty level
def JsonMembers.pretty (level : Nat) : JsonMembers → Text
  | .nil => []
  | .cons key value .nil => newLine level ++ Json.quoted key ++ ':' :: ' ' :: value.pretty level
  | .cons key value rest =>
    newLine level ++ Json.quoted key ++ ':' :: ' ' :: value.pretty level ++
      ',' :: rest.pretty level
end

end Relabel
