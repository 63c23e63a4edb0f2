import Relabel.Text.Basic
import Relabel.Text.Alphabetic
import Relabel.Text.CaseTables

/-!
# Upper and lower case

Full case mapping, in which a character may become several. The one rule with a context is that a
capital sigma that ends a word has a lower case of its own.
-/

namespace Relabel

def isCased (c : Char) : Bool := inRanges casedRanges c

def isCaseIgnorable (c : Char) : Bool := inRanges caseIgnorableRanges c

def uppercase (c : Char) : Text :=
  match uppercaseExpansions.lookup c.toNat with
  | some codes => codes.map Char.ofNat
  | none => [(shifted? uppercaseShifts c).getD c]

/-- The lower case of a character on its own. The dotted capital I keeps its dot. -/
def lowercase (c : Char) : Text :=
  if c = 'İ' then ['i', '\u0307'] else [(shifted? lowercaseShifts c).getD c]

namespace Text

def uppercase (text : Text) : Text := text.flatMap Relabel.uppercase

def beginsCased (text : Text) : Bool :=
  match text.dropWhile isCaseIgnorable with
  | c :: _ => isCased c
  | [] => false

/-- Lower case of a text of which `before`, last character first, has gone by. -/
def lowercaseFrom (before : Text) : Text → Text
  | [] => []
  | c :: rest =>
    (if c = 'Σ' then [if beginsCased before && !beginsCased rest then 'ς' else 'σ']
      else Relabel.lowercase c) ++ lowercaseFrom (c :: before) rest

def lowercase (text : Text) : Text := lowercaseFrom [] text

def titlecaseFrom (atStart : Bool) : Text → Text
  | [] => []
  | c :: rest =>
    if isAlphanumeric c then
      (if atStart then Relabel.uppercase c else Relabel.lowercase c) ++ titlecaseFrom false rest
    else c :: titlecaseFrom true rest

/-- Every maximal run of letters and digits gets a capital first and small letters after it. -/
def titlecase (text : Text) : Text := titlecaseFrom true text

end Text

end Relabel
