import Relabel.Toml.Quoted
import Relabel.Toml.Scalar

/-!
# Reading TOML

A document is a sequence of lines with entries and headers. An entry belongs to the table of the
header before it.
-/

namespace Relabel

namespace TomlReader

open TomlQuoted (isAllowed afterLineEnd?)

def skipBlanks (text : Text) : Text := text.dropWhile TomlQuoted.isBlank

def skipComment (text : Text) : Text :=
  match text with
  | '#' :: rest => rest.dropWhile isAllowed
  | _ => text

def skipLines : Nat → Text → Text
  | 0, text => text
  | steps + 1, text =>
    let rest := skipComment (skipBlanks text)
    match afterLineEnd? rest with
    | some rest => skipLines steps rest
    | none => rest

def skipAll (text : Text) : Text := skipLines (text.length + 1) text

def isBare (c : Char) : Bool := c.isAlphanum || c == '_' || c == '-'

def readPart? (text : Text) : Option (Text × Text) :=
  match text with
  | '"' :: rest => TomlQuoted.readLine? '"' (rest.length + 1) rest
  | '\'' :: rest => TomlQuoted.readLine? '\'' (rest.length + 1) rest
  | _ =>
    match text.span isBare with
    | ([], _) => none
    | (part, rest) => some (part, rest)

def readKey? : Nat → Text → Option (List Text × Text)
  -- The parts of a key and what follows it and blanks, with one step for every part.
  | 0, _ => none
  | steps + 1, text => do
    let (part, rest) ← readPart? (skipBlanks text)
    match skipBlanks rest with
    | '.' :: rest => (readKey? steps rest).map fun (parts, rest) => (part :: parts, rest)
    | rest => some ([part], rest)

def readKeyOf? (sign : Char) (text : Text) : Option (List Text × Text) := do
  let (key, rest) ← readKey? (text.length + 1) text
  (Text.after? [sign] rest).map (key, ·)

mutual
def readValue? (steps : Nat) (text : Text) : Option (Toml × Text) :=
  -- Reads a value, with one step for every part of it that is nested or follows.
  match steps with
  | 0 => none
  | steps + 1 =>
    match skipBlanks text with
    | '[' :: rest => (readItems? steps rest).map fun (items, rest) => (.array items, rest)
    | '{' :: rest =>
      (readEntries? steps [] rest).map fun (table, rest) => (.table .inline table, rest)
    | c :: rest =>
      if c = '"' ∨ c = '\'' then
        (TomlQuoted.read? (c :: rest)).map fun (t, rest) => (.text t, rest)
      else
        let (spelling, rest) := TomlScalar.split (c :: rest)
        (TomlScalar.value? spelling).map (·, rest)
    | [] => none
def readItems? (steps : Nat) (text : Text) : Option (List Toml × Text) :=
  match steps with
  | 0 => none
  | steps + 1 =>
    match skipAll text with
    | ']' :: rest => some ([], rest)
    | text => do
      let (item, rest) ← readValue? steps text
      match skipAll rest with
      | ']' :: rest => some ([item], rest)
      | ',' :: rest => (readItems? steps rest).map fun (items, rest) => (item :: items, rest)
      | _ => none
def readEntries? (steps : Nat) (table : TomlTable) (text : Text) : Option (TomlTable × Text) :=
  match steps with
  | 0 => none
  | steps + 1 =>
    match skipAll text with
    | '}' :: rest => some (table, rest)
    | text => do
      let (key, rest) ← readKeyOf? '=' text
      let (value, rest) ← readValue? steps rest
      let table ← TomlTable.addEntry value key table
      match skipAll rest with
      | '}' :: rest => some (table, rest)
      | ',' :: rest => readEntries? steps table rest
      | _ => none
end

/-- What has been read of a document: the whole of it, and the header that entries belong to. -/
structure Document where
  root : TomlTable
  header : List Text

def endLine? (text : Text) : Option Text :=
  match skipComment (skipBlanks text) with
  | [] => some []
  | rest => afterLineEnd? rest

def openHeader? (make : Text → TomlTable → Option TomlTable) (key : List Text)
    (document : Document) : Option Document := do
  let last ← key.getLast?
  let root ← TomlTable.atHeader (make last) key.dropLast document.root
  return ⟨root, key⟩

def readLine? (document : Document) (text : Text) : Option (Document × Text) :=
  match text with
  | '[' :: '[' :: rest => do
    let (key, rest) ← readKeyOf? ']' rest
    let rest ← Text.after? [']'] rest
    return (← openHeader? TomlTable.openNext key document, ← endLine? rest)
  | '[' :: rest => do
    let (key, rest) ← readKeyOf? ']' rest
    return (← openHeader? TomlTable.openTable key document, ← endLine? rest)
  | _ => do
    let (key, rest) ← readKeyOf? '=' text
    let (value, rest) ← readValue? (2 * rest.length + 2) rest
    let root ← TomlTable.atHeader (TomlTable.addEntry value key) document.header document.root
    return ({ document with root }, ← endLine? rest)

def readLines? : Nat → Document → Text → Option Document
  -- Reads the lines up to the end, with one step for each.
  | 0, _, _ => none
  | steps + 1, document, text =>
    match skipAll text with
    | [] => some document
    | text => do
      let (document, rest) ← readLine? document text
      readLines? steps document rest

def withoutMark : Text → Text
  | '\uFEFF' :: rest => rest
  | text => text

end TomlReader

def TomlTable.read? (text : Text) : Option TomlTable :=
  let text := TomlReader.withoutMark text
  (TomlReader.readLines? (text.length + 1) ⟨[], []⟩ text).map (·.root)

end Relabel
