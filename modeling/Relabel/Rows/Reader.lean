import Relabel.Text.Utf8

/-!
# Rows of comma-separated values

A row ends with its line, however lines end; lines without anything in them are no rows. A field
that begins with a quote runs to the next single quote, two quotes standing for one; what follows
up to the next comma still belongs to it.
-/

namespace Relabel.Rows

def comma : UInt8 := 0x2C
def quote : UInt8 := 0x22

def isLineEnd (b : UInt8) : Bool := b == 0x0A || b == 0x0D

inductive Place
  | rowStart
  | fieldStart
  | plain
  | quoted
  /-- After a quote inside of quotes, which may be the first of two. -/
  | closing
deriving DecidableEq, Repr

/-- What has been read of a row, latest first. -/
structure Progress where
  place : Place
  field : List UInt8
  fields : List (List UInt8)
deriving DecidableEq, Repr

namespace Progress

def start : Progress := ⟨.rowStart, [], []⟩

def add (p : Progress) (place : Place) (b : UInt8) : Progress :=
  { p with place, field := b :: p.field }

def endField (p : Progress) : Progress := ⟨.fieldStart, [], p.field.reverse :: p.fields⟩

/-- The fields of the row, the one in progress being the last. -/
def row (p : Progress) : List (List UInt8) := (p.field.reverse :: p.fields).reverse

def step (p : Progress) (b : UInt8) : Progress :=
  match p.place with
  | .quoted => if b = quote then { p with place := .closing } else p.add .quoted b
  | .closing =>
    if b = quote then p.add .quoted b
    else if b = comma then p.endField
    else p.add .plain b
  | .plain => if b = comma then p.endField else p.add .plain b
  | _ =>
    if b = quote then { p with place := .quoted }
    else if b = comma then p.endField
    else p.add .plain b

end Progress

def readFrom (p : Progress) : List UInt8 → List (List (List UInt8))
  | [] => if p.place = .rowStart then [] else [p.row]
  | b :: rest =>
    if isLineEnd b ∧ p.place ≠ .quoted then
      if p.place = .rowStart then readFrom .start rest else p.row :: readFrom .start rest
    else readFrom (p.step b) rest

/-- The bytes without the mark that may stand at the beginning of a text in UTF-8. -/
def withoutMark : List UInt8 → List UInt8
  | 0xEF :: 0xBB :: 0xBF :: rest => rest
  | bytes => bytes

def fieldText? (bytes : List UInt8) : Option Text := Text.ofUtf8? ⟨bytes.toArray⟩

def read (content : ByteArray) : List (Option (List Text)) :=
  (readFrom .start (withoutMark content.data.toList)).map (·.mapM fieldText?)

end Relabel.Rows
