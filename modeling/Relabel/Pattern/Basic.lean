import Relabel.Pattern.Match

/-!
# Patterns and their matches

A pattern finds its leftmost match from any place of a text on, and from there all matches from
left to right. Matches do not overlap, and an empty match right behind the match before it is
passed over.
-/

namespace Relabel

structure Pattern where
  program : Program
  groupCount : Nat
  names : List (Text × Nat)
deriving Repr, Inhabited

structure Match where
  span : Span
  /-- The groups from number 1 on; a group that took no part has no span. -/
  groups : List (Option Span)
deriving DecidableEq, Repr

namespace Match

def group? (m : Match) : Nat → Option Span
  | 0 => some m.span
  | n + 1 => (m.groups[n]?).join

def groupText (m : Match) (whole : Text) (number : Nat) : Text :=
  match m.group? number with
  | some span => span.text whole
  | none => []

end Match

namespace Pattern

def ofExpr (e : Expr) (groupCount : Nat) (names : List (Text × Nat)) : Pattern :=
  ⟨e.program, groupCount, names⟩

def literal (ignoreCase : Bool) (text : Text) : Pattern :=
  ofExpr (Expr.literal ignoreCase text) 0 []

def wholeText : Pattern := ofExpr Expr.wholeText 0 []

def groupSpan? (marks : Marks) (number : Nat) : Option Span :=
  match marks.lookup (2 * number), marks.lookup (2 * number + 1) with
  | some start, some stop => some ⟨start, stop⟩
  | _, _ => none

def find? (p : Pattern) (text : Text) (position : Nat) : Option Match :=
  if text.length < position then none
  else
    let before := if position = 0 then none else text[position - 1]?
    (p.program.search before position (text.drop position)).map fun found =>
      ⟨found.1, (List.range p.groupCount).map fun n => groupSpan? found.2 (n + 1)⟩

/-- The next match from a position on, which must not be empty where the last one stopped. -/
def next? (p : Pattern) (text : Text) (position : Nat) (lastStop : Option Nat) : Option Match :=
  match p.find? text position with
  | some m =>
    if m.span.isEmpty && lastStop == some m.span.stop then p.find? text (position + 1) else some m
  | none => none

def matchesFrom (p : Pattern) (text : Text) : Nat → Nat → Option Nat → List Match
  -- Every match moves the position on, so there are at most as many as there are positions.
  | 0, _, _ => []
  | bound + 1, position, lastStop =>
    match p.next? text position lastStop with
    | none => []
    | some m =>
      let position := if m.span.isEmpty then m.span.stop + 1 else m.span.stop
      m :: p.matchesFrom text bound position (some m.span.stop)

def allMatches (p : Pattern) (text : Text) : List Match :=
  p.matchesFrom text (text.length + 1) 0 none

def isMatch (p : Pattern) (text : Text) : Bool := (p.find? text 0).isSome

/-- What a group matched in the first match; nothing without a match or without such a group. -/
def captured (p : Pattern) (text : Text) (number : Nat) : Text :=
  match p.find? text 0 with
  | some m => m.groupText text number
  | none => []

end Pattern

end Relabel
