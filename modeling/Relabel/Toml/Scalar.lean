import Relabel.Text.Numeral
import Relabel.Time.Date
import Relabel.Toml.Value

/-!
# Unquoted values in TOML

Numbers, truth values, dates and times are told apart by their spelling.
-/

namespace Relabel.TomlScalar

def digits? (isDigit : Char → Bool) (text : Text) : Option Text :=
  let groups := Text.pieces '_' text
  if groups.all fun group => group ≠ [] && group.all isDigit then some groups.flatten else none

def withoutSign : Text → Text
  | '+' :: rest => rest
  | '-' :: rest => rest
  | text => text

def inBase (base : Nat) (digits : Text) : Option Nat :=
  (digits.mapM Text.hexDigit?).map (·.foldl (fun n d => base * n + d) 0)

/-- Decimal digits without a needless zero in front. -/
def wholeDigits? (text : Text) : Option Text :=
  (digits? Char.isDigit text).filter fun digits => digits.length = 1 ∨ digits.head? ≠ some '0'

def integer? (text : Text) : Option Int :=
  match text with
  | '0' :: 'x' :: rest =>
    ((digits? (fun c => (Text.hexDigit? c).isSome) rest).bind (inBase 16)).map Int.ofNat
  | '0' :: 'o' :: rest =>
    ((digits? (fun c => '0' ≤ c && c ≤ '7') rest).bind (inBase 8)).map Int.ofNat
  | '0' :: 'b' :: rest =>
    ((digits? (fun c => c == '0' || c == '1') rest).bind (inBase 2)).map Int.ofNat
  | _ =>
    ((wholeDigits? (withoutSign text)).bind Text.number?).map fun n =>
      if text.head? = some '-' then -(n : Int) else n

def isMantissa (needsPoint : Bool) (text : Text) : Bool :=
  match Text.pieces '.' text with
  | [whole] => !needsPoint && (wholeDigits? whole).isSome
  | [whole, fraction] => (wholeDigits? whole).isSome && (digits? Char.isDigit fraction).isSome
  | _ => false

def isReal (text : Text) : Bool :=
  let text := withoutSign text
  let mantissa := text.takeWhile fun c => c != 'e' && c != 'E'
  text == "inf".toList || text == "nan".toList ||
    match text.drop mantissa.length with
    | [] => isMantissa true text
    | _ :: exponent =>
      isMantissa false mantissa && (digits? Char.isDigit (withoutSign exponent)).isSome

def isPair (largest : Nat) (text : Text) : Bool :=
  text.length == 2 && (Text.numberUpTo? largest text).isSome

def isDate (text : Text) : Bool :=
  match Text.pieces '-' text with
  | [year, month, day] =>
    year.length == 4 && month.length == 2 && day.length == 2 &&
      match Text.number? year, Text.number? month, Text.number? day with
      | some y, some m, some d => (Date.of? y m d).isSome
      | _, _, _ => false
  | _ => false

def isSecond (text : Text) : Bool :=
  isPair 60 (text.take 2) &&
    match text.drop 2 with
    | [] => true
    | point :: fraction => point == '.' && (Text.number? fraction).isSome

def isTime (text : Text) : Bool :=
  match Text.pieces ':' text with
  | [hour, minute] => isPair 23 hour && isPair 59 minute
  | [hour, minute, second] => isPair 23 hour && isPair 59 minute && isSecond second
  | _ => false

def isOffset (text : Text) : Bool :=
  match text with
  | ['Z'] | ['z'] => true
  | sign :: rest =>
    (sign == '+' || sign == '-') &&
      match Text.pieces ':' rest with
      | [hour, minute] => isPair 23 hour && isPair 59 minute
      | _ => false
  | [] => false

def isTimeWithOffset (text : Text) : Bool :=
  let time := text.takeWhile fun c => c.isDigit || c == ':' || c == '.'
  isTime time && (time.length == text.length || isOffset (text.drop time.length))

def isMoment (text : Text) : Bool :=
  isTime text || isDate text ||
    (isDate (text.take 10) &&
      match text.drop 10 with
      | c :: rest => (c == 'T' || c == 't' || c == ' ') && isTimeWithOffset rest
      | [] => false)

def value? (text : Text) : Option Toml :=
  if text = "true".toList then some (.boolean true)
  else if text = "false".toList then some (.boolean false)
  else match integer? text with
    | some n => some (.integer n)
    | none =>
      if isReal text then some (.real text)
      else if isMoment text then some (.moment text)
      else none

def isPart (c : Char) : Bool := c.isAlphanum || "+-._:".toList.contains c

/-- The spelling at the front; a date may be followed by one blank and a time. -/
def split (text : Text) : Text × Text :=
  let front := text.takeWhile isPart
  match text.drop front.length with
  | ' ' :: c :: rest =>
    if isDate front ∧ c.isDigit then
      let time := (c :: rest).takeWhile isPart
      (front ++ ' ' :: time, (c :: rest).drop time.length)
    else (front, ' ' :: c :: rest)
  | rest => (front, rest)

end Relabel.TomlScalar
