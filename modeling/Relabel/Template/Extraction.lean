import Relabel.Template.Form
import Relabel.Text.Occurrence

/-!
# Extracting variables

A variable stands between an opening brace and the next brace, which has to close it. A template
is examined for the kinds one after the other, and within a kind from left to right; the first
number that is out of bounds makes the extraction fail.
-/

namespace Relabel

inductive NumberField
  | parentLevel
  | column
  | indexStep
  | indexWidth
  | indexStart
  | skipRange
  | skipNumber
  | group
deriving DecidableEq, Repr

inductive TemplateError
  | badNumber (field : NumberField) (text : Text)
  | zeroStep (token : Text)
deriving DecidableEq, Repr

structure Token where
  text : Text
  wanted : Variable
deriving DecidableEq, Repr

abbrev Tokens := List Token

def largestCount : Nat := 18446744073709551615

namespace Form

def number (largest : Nat) (field : NumberField) (text : Text) : Except TemplateError Nat :=
  match Text.numberUpTo? largest text.trim with
  | some n => .ok n
  | none => .error (.badNumber field text)

def numberOr (default largest : Nat) (field : NumberField) (text : Text) :
    Except TemplateError Nat :=
  if text = [] then .ok default else number largest field text

def groupNumber : Option Text → Except TemplateError (Option Nat)
  | none => .ok none
  | some digits => (number largestCount .group digits).map some

def skipRange (f : SkipForm) : Except TemplateError SkipRange := do
  match f.second with
  | some second =>
    let a ← number Index.largest.toNat .skipRange (f.blanks ++ f.first)
    let b ← number Index.largest.toNat .skipRange second
    return .between a b
  | none =>
    let n ← number Index.largest.toNat .skipNumber (f.blanks ++ f.first)
    return .between n n

def indexOf (token : Text) (f : IndexForm) : Except TemplateError Index := do
  let step ← numberOr 1 Index.largest.toNat .indexStep f.step
  if step = 0 then throw (.zeroStep token)
  let width ← numberOr 0 largestCount .indexWidth f.width
  if Index.widest < width then throw (.badNumber .indexWidth f.width)
  let group ← groupNumber f.group
  let start ← numberOr 1 Index.largest.toNat .indexStart f.start
  let skip ← f.skip.mapM skipRange
  return ⟨start, step, width, f.system, skip, group⟩

def resolve (token : Text) : Form → Except TemplateError Variable
  | stem t => .ok (.stem t)
  | extension t => .ok (.extension t)
  | parent levels t => do return .parent (← numberOr 1 largestCount .parentLevel levels) t
  | picture _ item field t => .ok (.picture item field t)
  | index f => do return .index (← indexOf token f)
  | song tag t => .ok (.song tag t)
  | digest algorithm t => .ok (.digest algorithm t)
  | time item field t => .ok (.time item field t)
  | exifTool tag t => .ok (.exifTool tag t)
  | capture group format => do return .capture (← groupNumber group) format
  | column digits t => do return .column (← number largestCount .column digits) t

end Form

namespace Template

/-- What stands in front of the next brace, if that brace closes. -/
def groupBody? : Text → Option Text
  | [] => none
  | c :: rest =>
    if c = '}' then some []
    else if c = '{' then none
    else (groupBody? rest).map (c :: ·)

def groups : Text → List Text
  | [] => []
  | c :: rest =>
    -- A group holds no opening brace, so the search may go on inside of it.
    if c = '{' then (groupBody? rest).toList ++ groups rest else groups rest

def enclose (body : Text) : Text := '{' :: body ++ ['}']

def tokensOf (template : Text) (kind : VariableKind) : Except TemplateError (List Token) :=
  ((groups template).filterMap fun body => (Form.readAs? body kind).map (body, ·)).mapM
    fun (body, form) => do return ⟨enclose body, ← form.resolve (enclose body)⟩

def tokens (template : Text) : Except TemplateError Tokens := do
  return (← VariableKind.all.mapM (tokensOf template)).flatten

end Template

namespace Tokens

def ofKind (tokens : Tokens) (kind : VariableKind) : List Token :=
  tokens.filter (·.wanted.kind = kind)

def hasIndex (tokens : Tokens) : Bool := tokens.any (·.wanted.kind = .index)

end Tokens

def doubleDollars (text : Text) : Text :=
  text.flatMap fun c => if c = '$' then ['$', '$'] else [c]

/-- The template with the dollar signs inside its tokens doubled, so that an expansion leaves the
tokens as they are. -/
def Template.protect (template : Text) (tokens : Tokens) : Text :=
  ((tokens.map (·.text)).eraseDups.filter (·.contains '$')).foldl
    (fun done text => Text.replaceAll text (doubleDollars text) done) template

end Relabel
