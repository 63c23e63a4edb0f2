import Relabel.Pattern.Basic
import Relabel.Text.Numeral

/-!
# Expanding replacements

In a replacement `$name` and `${name}` stand for what a group matched and `$$` for a dollar sign.
A name without braces is as long as it can be; a name that is a number means the group of that
number, and a name that no group has stands for nothing. Any other dollar sign is itself.
-/

namespace Relabel

namespace Expansion

inductive Piece
  | char (c : Char)
  | reference (name : Text)
deriving DecidableEq, Repr

def isNameCharacter (c : Char) : Bool := c.isAlphanum || c == '_'

def reference? : Text → Option (Text × Text)
  | '{' :: rest =>
    match rest.span (· != '}') with
    | (name, _ :: rest) => some (name, rest)
    | (_, []) => none
  | rest =>
    match rest.span isNameCharacter with
    | ([], _) => none
    | (name, rest) => some (name, rest)

def readPieces : Nat → Text → List Piece
  -- Every piece takes a character of the text, so its length bounds their number.
  | 0, _ => []
  | _ + 1, [] => []
  | bound + 1, c :: rest =>
    if c ≠ '$' then .char c :: readPieces bound rest
    -- Two dollar signs come before a reference, which cannot begin with one.
    else match rest with
      | '$' :: rest => .char '$' :: readPieces bound rest
      | rest =>
        match reference? rest with
        | some (name, rest) => .reference name :: readPieces bound rest
        | none => .char '$' :: readPieces bound rest

def pieces (replacement : Text) : List Piece := readPieces replacement.length replacement

/-- Group numbers are at most the largest 64-bit number; longer numerals are names. -/
def largestNumber : Nat := 18446744073709551615

def groupNumber? (names : List (Text × Nat)) (name : Text) : Option Nat :=
  match Text.signedNumberUpTo? largestNumber name with
  | some number => some number
  | none => names.lookup name

def Piece.expand (names : List (Text × Nat)) (whole : Text) (m : Match) : Piece → Text
  | char c => [c]
  | reference name =>
    match groupNumber? names name with
    | some number => m.groupText whole number
    | none => []

end Expansion

def Match.expand (m : Match) (names : List (Text × Nat)) (whole replacement : Text) : Text :=
  (Expansion.pieces replacement).flatMap (Expansion.Piece.expand names whole m)

end Relabel
