import Relabel.Pattern.Expr
import Relabel.Pattern.Flags
import Relabel.Pattern.Property
import Relabel.Text.Numeral

/-!
# Escapes in find patterns

What may follow a backslash: a character of special meaning taken literally, a control character,
a code point in hexadecimal, a class or an assertion.
-/

namespace Relabel

namespace Escape

inductive Meaning
  | char (c : Char)
  | chars (accepted : CharClass)
  | look (assertion : Assertion)

def isMeta (c : Char) : Bool := "\\.+*?()|[]\x7b\x7d^$#&-~".toList.contains c

/-- ASCII punctuation may be escaped without need, except the two angle brackets. -/
def isEscapable (c : Char) : Bool :=
  isMeta c || (c.toNat < 0x80 && !c.isAlphanum && c != '<' && c != '>')

def readHex (digits : Nat) : Text → Except PatternError (Char × Text)
  | '{' :: rest =>
    match rest.span (· != '}'), Text.hexChar? (rest.takeWhile (· != '}')) with
    | (_, _ :: rest), some c => .ok (c, rest)
    | _, _ => .error .badCodePoint
  | rest =>
    if rest.length < digits then .error .badCodePoint
    else match Text.hexChar? (rest.take digits) with
      | some c => .ok (c, rest.drop digits)
      | none => .error .badCodePoint

/-- A code point behind `x`; two digits are a byte where Unicode is off. -/
def readByte (flags : PatternFlags) (text : Text) : Except PatternError (Char × Text) := do
  let (c, rest) ← readHex 2 text
  if text.head? ≠ some '{' ∧ !flags.knows c then .error .beyondAscii else return (c, rest)

def propertyClass (flags : PatternFlags) (negated : Bool) (query : Text) :
    Except PatternError Meaning :=
  if !flags.unicode then .error .beyondAscii
  else match CharClass.ofQuery? query with
    | some (a, complement) => .ok (.chars ((flags.fold a).negating (negated != complement)))
    | none => .error .unknownProperty

def readProperty (flags : PatternFlags) (negated : Bool) :
    Text → Except PatternError (Meaning × Text)
  | '{' :: rest =>
    match rest.span (· != '}') with
    | (query, _ :: rest) => do return (← propertyClass flags negated query, rest)
    | (_, []) => .error .unknownProperty
  | c :: rest => do return (← propertyClass flags negated [c], rest)
  | [] => .error .badEscape

def perlClass (flags : PatternFlags) (negated : Bool) (p : CharProperty) (rest : Text) :
    Except PatternError (Meaning × Text) := do
  return (.chars (← flags.negate negated (flags.restrict (.property p))), rest)

/-- A kind of word boundary named between braces; other braces are a repetition. -/
def readBoundary (unicode : Bool) : Text → Except PatternError (Meaning × Text)
  | '{' :: rest =>
    let (name, after) := rest.span fun c => c.isAlpha || c == '-'
    if rest = [] then .error .badRepetition
    else if name = [] then .ok (.look (.wordBoundary unicode), '{' :: rest)
    else match after with
      | '}' :: after =>
        if name = "start".toList then .ok (.look (.wordStart unicode), after)
        else if name = "end".toList then .ok (.look (.wordEnd unicode), after)
        else if name = "start-half".toList then .ok (.look (.wordStartHalf unicode), after)
        else if name = "end-half".toList then .ok (.look (.wordEndHalf unicode), after)
        else .error .badEscape
      | _ => .error .badEscape
  | rest => .ok (.look (.wordBoundary unicode), rest)

/-- What stands behind a backslash. -/
def read (flags : PatternFlags) : Text → Except PatternError (Meaning × Text)
  | [] => .error .badEscape
  | c :: rest =>
    if c.isDigit then .error .backreference
    else if isEscapable c then .ok (.char c, rest)
    else match c with
      | 'x' => do
        let (c, rest) ← readByte flags rest
        return (.char c, rest)
      | 'u' => do
        let (c, rest) ← readHex 4 rest
        return (.char c, rest)
      | 'U' => do
        let (c, rest) ← readHex 8 rest
        return (.char c, rest)
      | 'p' => readProperty flags false rest
      | 'P' => readProperty flags true rest
      | 'd' => perlClass flags false .decimalDigit rest
      | 'D' => perlClass flags true .decimalDigit rest
      | 's' => perlClass flags false .blank rest
      | 'S' => perlClass flags true .blank rest
      | 'w' => perlClass flags false .word rest
      | 'W' => perlClass flags true .word rest
      | 'a' => .ok (.char '\x07', rest)
      | 'f' => .ok (.char '\x0c', rest)
      | 't' => .ok (.char '\t', rest)
      | 'n' => .ok (.char '\n', rest)
      | 'r' => .ok (.char '\r', rest)
      | 'v' => .ok (.char '\x0b', rest)
      | 'A' => .ok (.look .textStart, rest)
      | 'z' => .ok (.look .textEnd, rest)
      | 'b' => readBoundary flags.unicode rest
      | 'B' => .ok (.look (.noWordBoundary flags.unicode), rest)
      | '<' => .ok (.look (.wordStart flags.unicode), rest)
      | '>' => .ok (.look (.wordEnd flags.unicode), rest)
      | _ => .error .badEscape

end Escape

end Relabel
