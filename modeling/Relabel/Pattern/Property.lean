import Relabel.Pattern.CharClass
import Relabel.Text.Alphabetic
import Relabel.Text.GeneralCategory
import Relabel.Text.ListedProperty
import Relabel.Text.Script

/-!
# Properties by name

A find pattern names a set of characters by a general category, a script or another property. Case
and separators in the names do not count.

There are no names here for ages, script extensions and the values of the breaks of words, sentences
and clusters, nor for properties that are not listed: with them a pattern is in error.
-/

namespace Relabel

namespace CharClass

def among (ranges : List (Nat × Nat)) : CharClass := property (.among ranges)

def categories : List (List String × CharClass) :=
  let upper := property .uppercaseLetter
  let lower := property .lowercaseLetter
  let title := among titlecaseLetterRanges
  let modifier := among modifierLetterRanges
  let cased := unionAll [upper, lower, title]
  let letter := among letterRanges
  let nonspacing := among nonspacingMarkRanges
  let spacing := among spacingMarkRanges
  let enclosing := among enclosingMarkRanges
  let mark := unionAll [nonspacing, spacing, enclosing]
  let digit := property .decimalDigit
  let letterNumber := among letterNumberRanges
  let number := among numericRanges
  let connector := among connectorPunctuationRanges
  let dash := among dashPunctuationRanges
  let opening := among openPunctuationRanges
  let closing := among closePunctuationRanges
  let initial := among initialPunctuationRanges
  let final := among finalPunctuationRanges
  let otherPunctuation := among otherPunctuationRanges
  let punctuation :=
    unionAll [connector, dash, opening, closing, initial, final, otherPunctuation]
  let math := among mathSymbolRanges
  let currency := among currencySymbolRanges
  let modifierSymbol := among modifierSymbolRanges
  let otherSymbol := among otherSymbolRanges
  let symbol := unionAll [math, currency, modifierSymbol, otherSymbol]
  let space := among spaceSeparatorRanges
  let line := single '\u2028'
  let paragraph := single '\u2029'
  let separator := unionAll [space, line, paragraph]
  let control := property .control
  let format := among formatRanges
  let privateUse := among privateUseRanges
  let other := complement (unionAll [letter, mark, number, punctuation, symbol, separator])
  let unassigned := difference other (unionAll [control, format, privateUse])
  [ (["l", "letter"], letter),
    (["lu", "uppercaseletter"], upper),
    (["ll", "lowercaseletter"], lower),
    (["lt", "titlecaseletter"], title),
    (["lc", "casedletter"], cased),
    (["lm", "modifierletter"], modifier),
    (["lo", "otherletter"], difference letter (union cased modifier)),
    (["m", "mark", "combiningmark"], mark),
    (["mn", "nonspacingmark"], nonspacing),
    (["mc", "spacingmark"], spacing),
    (["me", "enclosingmark"], enclosing),
    (["n", "number"], number),
    (["nd", "decimalnumber", "digit"], digit),
    (["nl", "letternumber"], letterNumber),
    (["no", "othernumber"], difference number (union digit letterNumber)),
    (["p", "punctuation", "punct"], punctuation),
    (["pc", "connectorpunctuation"], connector),
    (["pd", "dashpunctuation"], dash),
    (["ps", "openpunctuation"], opening),
    (["pe", "closepunctuation"], closing),
    (["pi", "initialpunctuation"], initial),
    (["pf", "finalpunctuation"], final),
    (["po", "otherpunctuation"], otherPunctuation),
    (["s", "symbol"], symbol),
    (["sm", "mathsymbol"], math),
    (["sc", "currencysymbol"], currency),
    (["sk", "modifiersymbol"], modifierSymbol),
    (["so", "othersymbol"], otherSymbol),
    (["z", "separator"], separator),
    (["zs", "spaceseparator"], space),
    (["zl", "lineseparator"], line),
    (["zp", "paragraphseparator"], paragraph),
    (["c", "other"], other),
    (["cc", "control", "cntrl"], control),
    (["cf", "format"], format),
    (["co", "privateuse"], privateUse),
    (["cn", "unassigned"], unassigned),
    (["any"], any),
    (["assigned"], complement unassigned),
    (["ascii"], property .ascii)]

def properties : List (List String × CharClass) :=
  [ (["alphabetic", "alpha"], among alphabeticRanges),
    (["whitespace", "wspace", "space"], property .blank),
    (["uppercase", "upper"], union (property .uppercaseLetter) (among otherUppercaseRanges)),
    (["lowercase", "lower"], union (property .lowercaseLetter) (among otherLowercaseRanges))] ++
  listedProperties.map fun entry => (entry.1, among entry.2)

def ofName? (table : List (List String × CharClass)) (name : Text) : Option CharClass :=
  (table.find? fun entry => entry.1.any (·.toList == name)).map (·.2)

def ofScript? : Text → Option CharClass :=
  ofName? (scripts.map fun entry => (entry.1, among entry.2))

/-- A name as names are compared: its ASCII characters without separators, in lower case, and without
an `is` in front. -/
def looseName (name : Text) : Text :=
  let plain (text : Text) : Text :=
    (text.filter fun c => c.toNat < 0x80 && !" -_".toList.contains c).map Char.toLower
  match name with
  | i :: s :: rest =>
    -- A name that would be just `c` without it keeps its `is`, since it names something else.
    if i.toLower = 'i' ∧ s.toLower = 's' ∧ plain rest ≠ ['c'] then plain rest else plain name
  | name => plain name

/-- A category or a script needs no property in front of it. -/
def ofPlainName? (name : Text) : Option CharClass :=
  let name := looseName name
  ((ofName? properties name).or (ofName? categories name)).or (ofScript? name)

def ofValue? (name value : Text) : Option CharClass :=
  let name := looseName name
  if ["gc".toList, "generalcategory".toList].contains name then
    ofName? categories (looseName value)
  else if ["sc".toList, "script".toList].contains name then ofScript? (looseName value)
  else none

def cut? (separator : Text) : Text → Option (Text × Text)
  | [] => none
  | c :: cs =>
    match Text.after? separator (c :: cs) with
    | some rest => some ([], rest)
    | none => (cut? separator cs).map fun (front, rest) => (c :: front, rest)

/-- The set that a name, or a property with a value, stands for, and whether it is its complement
that is meant. -/
def ofQuery? (query : Text) : Option (CharClass × Bool) :=
  match cut? "!=".toList query with
  | some (name, value) => (ofValue? name value).map (·, true)
  | none =>
    match (cut? [':'] query).or (cut? ['='] query) with
    | some (name, value) => (ofValue? name value).map (·, false)
    | none => (ofPlainName? query).map (·, false)

end CharClass

end Relabel
