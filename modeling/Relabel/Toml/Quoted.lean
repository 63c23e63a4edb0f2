import Relabel.Text.Numeral

/-!
# Quoted texts in TOML

Texts stand between single quotes, which leave everything as it is, or double quotes with escapes,
and between three of either over several lines.
-/

namespace Relabel.TomlQuoted

def isBlank (c : Char) : Bool := c == ' ' || c == '\t'

def isAllowed (c : Char) : Bool := c == '\t' || (0x20 ≤ c.toNat && c.toNat != 0x7F)

def afterLineEnd? : Text → Option Text
  | '\n' :: rest => some rest
  | '\r' :: '\n' :: rest => some rest
  | _ => none

def hexEscape? (digits : Nat) (text : Text) : Option (Char × Text) :=
  if (text.take digits).length = digits then
    (Text.hexChar? (text.take digits)).map (·, text.drop digits)
  else none

def escape? : Text → Option (Char × Text)
  | 'b' :: rest => some ('\u0008', rest)
  | 't' :: rest => some ('\t', rest)
  | 'n' :: rest => some ('\n', rest)
  | 'f' :: rest => some ('\u000C', rest)
  | 'r' :: rest => some ('\r', rest)
  | 'e' :: rest => some ('\u001B', rest)
  | '"' :: rest => some ('"', rest)
  | '\\' :: rest => some ('\\', rest)
  | 'x' :: rest => hexEscape? 2 rest
  | 'u' :: rest => hexEscape? 4 rest
  | 'U' :: rest => hexEscape? 8 rest
  | _ => none

def readLine? (quote : Char) : Nat → Text → Option (Text × Text)
  -- Reads up to the closing quote on the same line, with one step for every character.
  | 0, _ => none
  | steps + 1, text =>
    match text with
    | [] => none
    | c :: rest =>
      if c = quote then some ([], rest)
      else if c = '\\' ∧ quote = '"' then do
        let (c, rest) ← escape? rest
        (readLine? quote steps rest).map fun (t, rest) => (c :: t, rest)
      else if isAllowed c then (readLine? quote steps rest).map fun (t, rest) => (c :: t, rest)
      else none

/-- What follows a backslash at the end of a line: the next line with anything but blanks. -/
def continuation? (text : Text) : Option Text :=
  (afterLineEnd? (text.dropWhile isBlank)).map fun rest =>
    rest.dropWhile fun c => isBlank c || c == '\n' || c == '\r'

/-- Reads up to three closing quotes, before which two more may stand. -/
def readLines? (quote : Char) : Nat → Text → Option (Text × Text)
  | 0, _ => none
  | steps + 1, text =>
    match text with
    | [] => none
    | c :: rest =>
      if c = quote then
        let quotes := (text.takeWhile (· = quote)).length
        if 3 ≤ quotes then
          let inside := min (quotes - 3) 2
          some (List.replicate inside quote, text.drop (inside + 3))
        else
          (readLines? quote steps (text.drop quotes)).map fun (t, rest) =>
            (List.replicate quotes quote ++ t, rest)
      else if c = '\\' ∧ quote = '"' then
        match continuation? rest with
        | some rest => readLines? quote steps rest
        | none => do
          let (c, rest) ← escape? rest
          (readLines? quote steps rest).map fun (t, rest) => (c :: t, rest)
      else
        match afterLineEnd? text with
        | some rest => (readLines? quote steps rest).map fun (t, rest) => ('\n' :: t, rest)
        | none =>
          if isAllowed c then (readLines? quote steps rest).map fun (t, rest) => (c :: t, rest)
          else none

def read? (text : Text) : Option (Text × Text) :=
  match text with
  | a :: b :: c :: rest =>
    if a = b ∧ b = c then
      readLines? a (rest.length + 1) ((afterLineEnd? rest).getD rest)
    else readLine? a (text.length + 1) (b :: c :: rest)
  | a :: rest => readLine? a (text.length + 1) rest
  | [] => none

end Relabel.TomlQuoted
