import Relabel.Pattern.CharClass

/-!
# Search expressions

The syntax of a find pattern once it has been read. Groups are numbered from 1 by their opening
parenthesis; the order of the alternatives and the greed of a repetition say which of several
matches at one place is preferred.
-/

namespace Relabel

inductive Assertion
  | textStart
  | textEnd
  | lineStart (crlf : Bool)
  | lineEnd (crlf : Bool)
  | wordBoundary (unicode : Bool)
  | noWordBoundary (unicode : Bool)
  | wordStart (unicode : Bool)
  | wordEnd (unicode : Bool)
  | wordStartHalf (unicode : Bool)
  | wordEndHalf (unicode : Bool)
deriving DecidableEq, Repr

namespace Assertion

def isWordBeside (unicode : Bool) (c : Option Char) : Bool :=
  c.any fun c => isWordCharacter c && (unicode || c.toNat < 0x80)

def holds (before after : Option Char) : Assertion → Bool
  | textStart => before.isNone
  | textEnd => after.isNone
  | lineStart false => before.all (· == '\n')
  | lineEnd false => after.all (· == '\n')
  -- A carriage return and the line feed behind it end a line together.
  | lineStart true => before.all (· == '\n') || before == some '\r' && after != some '\n'
  | lineEnd true => after.all (· == '\r') || after == some '\n' && before != some '\r'
  | wordBoundary u => isWordBeside u before != isWordBeside u after
  | noWordBoundary u => isWordBeside u before == isWordBeside u after
  | wordStart u => !isWordBeside u before && isWordBeside u after
  | wordEnd u => isWordBeside u before && !isWordBeside u after
  | wordStartHalf u => !isWordBeside u before
  | wordEndHalf u => !isWordBeside u after

end Assertion

inductive Expr
  | empty
  | char (accepted : CharClass)
  | look (assertion : Assertion)
  | group (number : Nat) (body : Expr)
  | seq (first second : Expr)
  | alt (first second : Expr)
  /-- At least `least` and at most `most` copies, as many as possible first if `greedy`. -/
  | repeated (body : Expr) (least : Nat) (most : Option Nat) (greedy : Bool)
deriving Repr

namespace Expr

def seqAll : List Expr → Expr
  | [] => empty
  | [e] => e
  | e :: es => seq e (seqAll es)

def altAll : List Expr → Expr
  | [] => empty
  | [e] => e
  | e :: es => alt e (altAll es)

def literal (ignoreCase : Bool) (text : Text) : Expr :=
  seqAll (text.map fun c => char ((CharClass.single c).folding ignoreCase))

def wholeText : Expr :=
  seq (look .textStart) (seq (repeated (char .any) 0 none true) (look .textEnd))

def nullable : Expr → Bool
  | empty => true
  | char _ => false
  | look _ => true
  | group _ body => body.nullable
  | seq a b => a.nullable && b.nullable
  | alt a b => a.nullable || b.nullable
  | repeated body least _ _ => least == 0 || body.nullable

/-- How many instructions the expression takes when repetitions are written out. -/
def weight : Expr → Nat
  | empty => 0
  | char _ => 1
  | look _ => 1
  | group _ body => body.weight + 2
  | seq a b => a.weight + b.weight
  | alt a b => a.weight + b.weight + 1
  | repeated body least most _ => (body.weight + 1) * (max least (most.getD 0) + 1) + 1

end Expr

end Relabel
