import Relabel.Pattern.Basic
import Relabel.Pattern.Bracket

/-!
# Reading find patterns

The text of a find pattern is read from left to right with a stack of open groups. Flags hold from
where they are set to the end of the group around them, through its further alternatives too.
How deep groups and classes may stand in each other is not bounded.
-/

namespace Relabel

namespace PatternReader

/-- What has been read of one group: its finished alternatives and the items of the current one,
latest first. Flags leave an item behind that cannot be repeated. -/
structure Level where
  branches : List Expr
  items : List (Option Expr)

def Level.empty : Level := ⟨[], []⟩

def Level.add (e : Expr) (level : Level) : Level := { level with items := some e :: level.items }

def Level.sequence (level : Level) : Expr :=
  Expr.seqAll (level.items.reverse.filterMap id)

def Level.split (level : Level) : Level := ⟨level.sequence :: level.branches, []⟩

def Level.expr (level : Level) : Expr :=
  Expr.altAll (level.sequence :: level.branches).reverse

/-- A group that is open: its number if it captures, the flags to go back to, and the level
around it. -/
structure OpenGroup where
  number : Option Nat
  flags : PatternFlags
  outer : Level

structure State where
  flags : PatternFlags
  level : Level
  groups : List OpenGroup
  groupCount : Nat
  names : List (Text × Nat)

def State.add (e : Expr) (s : State) : State := { s with level := s.level.add e }

/-- Sets one flag by its letter. -/
def setFlag? (letter : Char) (value : Bool) (flags : PatternFlags) : Option PatternFlags :=
  match letter with
  | 'i' => some { flags with ignoreCase := value }
  | 'm' => some { flags with multiLine := value }
  | 's' => some { flags with dotNewline := value }
  | 'U' => some { flags with lazyFirst := value }
  | 'x' => some { flags with extended := value }
  | 'R' => some { flags with crlf := value }
  | 'u' => some { flags with unicode := value }
  | _ => none

/-- The flags after a question mark up to a colon or a parenthesis: letters that are set, a hyphen,
and letters that are cleared. No letter may come twice. -/
def readFlags (seen : List Char) (negated : Bool) (flags : PatternFlags) :
    Text → Except PatternError (PatternFlags × Text)
  | [] => .error .badFlags
  | c :: rest =>
    if c = ':' ∨ c = ')' then
      if seen.head? = some '-' then .error .badFlags else .ok (flags, c :: rest)
    else if seen.contains c then .error .badFlags
    else if c = '-' then readFlags (c :: seen) true flags rest
    else match setFlag? c (!negated) flags with
      | some flags => readFlags (c :: seen) negated flags rest
      | none => .error .badFlags

def isNameStart (c : Char) : Bool := c == '_' || isAlphabetic c

def isNameCharacter (c : Char) : Bool :=
  c == '_' || c == '.' || c == '[' || c == ']' || isAlphanumeric c

def readName (text : Text) : Except PatternError (Text × Text) :=
  match text.span (· != '>') with
  | (c :: name, _ :: rest) =>
    if isNameStart c && name.all isNameCharacter then .ok (c :: name, rest)
    else .error .badGroupName
  | _ => .error .badGroupName

def State.openCapture (s : State) (name : Option Text) : Except PatternError State :=
  let number := s.groupCount + 1
  let names := match name with
    | some name => s.names ++ [(name, number)]
    | none => s.names
  if name.any fun name => (s.names.lookup name).isSome then .error .repeatedGroupName
  else .ok { s with
    level := .empty
    groups := ⟨some number, s.flags, s.level⟩ :: s.groups
    groupCount := number
    names }

def State.openGroup (s : State) (text : Text) : Except PatternError (State × Text) :=
  let text := Bracket.skipBlanks s.flags.extended text
  match text with
  | '?' :: '=' :: _ => .error .lookAround
  | '?' :: '!' :: _ => .error .lookAround
  | '?' :: '<' :: '=' :: _ => .error .lookAround
  | '?' :: '<' :: '!' :: _ => .error .lookAround
  | '?' :: 'P' :: '<' :: rest => do
    let (name, rest) ← readName rest
    return (← s.openCapture (some name), rest)
  | '?' :: '<' :: rest => do
    let (name, rest) ← readName rest
    return (← s.openCapture (some name), rest)
  | '?' :: rest => do
    let (flags, after) ← readFlags [] false s.flags rest
    match after with
    | ')' :: after =>
      if rest.head? = some ')' then .error .nothingToRepeat
      else return ({ s with
        flags
        level := { s.level with items := none :: s.level.items } }, after)
    | _ :: after =>
      return ({ s with flags, level := .empty, groups := ⟨none, s.flags, s.level⟩ :: s.groups },
        after)
    | [] => .error .unclosedGroup
  | _ => do return (← s.openCapture none, text)

def State.closeGroup (s : State) : Except PatternError State :=
  match s.groups with
  | [] => .error .unopenedGroup
  | g :: groups =>
    let body := s.level.expr
    let body := match g.number with
      | some number => Expr.group number body
      | none => body
    .ok { s with flags := g.flags, level := g.outer.add body, groups }

/-- Puts a repetition around the last item. A question mark behind it turns its greed. -/
def State.repeatLast (s : State) (least : Nat) (most : Option Nat) (text : Text) :
    Except PatternError (State × Text) :=
  match s.level.items with
  | some body :: items =>
    let text := Bracket.skipBlanks s.flags.extended text
    let (greedy, text) := match text with
      | '?' :: rest => (s.flags.lazyFirst, rest)
      | _ => (!s.flags.lazyFirst, text)
    .ok ({ s with level := { s.level with
      items := some (.repeated body least most greedy) :: items } }, text)
  | _ => .error .nothingToRepeat

def readCount (text : Text) : Option Nat × Text :=
  let (digits, rest) := (text.dropWhile isBlank).span Char.isDigit
  (Text.numberUpTo? 0xffffffff digits, rest.dropWhile isBlank)

def State.repeatCounted (s : State) (text : Text) : Except PatternError (State × Text) :=
  match s.level.items with
  | some _ :: _ =>
    match readCount text with
    | (some least, '}' :: rest) => s.repeatLast least (some least) rest
    | (some least, ',' :: rest) =>
      match Bracket.skipBlanks s.flags.extended rest with
      | '}' :: rest => s.repeatLast least none rest
      | rest =>
        match readCount rest with
        | (some most, '}' :: rest) =>
          if least ≤ most then s.repeatLast least (some most) rest else .error .badRepetition
        | _ => .error .badRepetition
    | _ => .error .badRepetition
  | _ => .error .nothingToRepeat

def State.addChar (s : State) (c : Char) : State :=
  s.add (.char (s.flags.char c))

def State.addMeaning (s : State) : Escape.Meaning → State
  | .char c => s.addChar c
  | .chars accepted => s.add (.char accepted)
  | .look assertion => s.add (.look assertion)

def State.next (s : State) (c : Char) (rest : Text) : Except PatternError (State × Text) :=
  match c with
  | '(' => s.openGroup rest
  | ')' => do return (← s.closeGroup, rest)
  | '|' => .ok ({ s with level := s.level.split }, rest)
  | '[' => do
    let (accepted, rest) ← Bracket.read s.flags (2 * rest.length + 2) rest
    return (s.add (.char accepted), rest)
  | '?' => s.repeatLast 0 (some 1) rest
  | '*' => s.repeatLast 0 none rest
  | '+' => s.repeatLast 1 none rest
  | '{' => s.repeatCounted rest
  | '\\' => do
    let (meaning, rest) ← Escape.read s.flags rest
    return (s.addMeaning meaning, rest)
  | '.' => do return (s.add (.char (← s.flags.dot)), rest)
  | '^' =>
    .ok (s.add (.look (if s.flags.multiLine then .lineStart s.flags.crlf else .textStart)), rest)
  | '$' =>
    .ok (s.add (.look (if s.flags.multiLine then .lineEnd s.flags.crlf else .textEnd)), rest)
  | c => .ok (s.addChar c, rest)

def State.readAll (s : State) : Nat → Text → Except PatternError State
  -- Every step consumes a character, so the text bounds their number.
  | 0, _ => .ok s
  | bound + 1, text =>
    match Bracket.skipBlanks s.flags.extended text with
    | [] => .ok s
    | c :: rest => do
      let (s, rest) ← s.next c rest
      s.readAll bound rest

end PatternReader

namespace Pattern

/-- The greatest weight of an expression that is made into a program. The weight counts
instructions, where the program's size is bounded in bytes. -/
def largestWeight : Nat := 262144

def read (ignoreCase : Bool) (text : Text) : Except PatternError Pattern := do
  let start : PatternReader.State := ⟨.start ignoreCase, .empty, [], 0, []⟩
  let done ← start.readAll (text.length + 1) text
  if done.groups ≠ [] then .error .unclosedGroup
  else
    let e := done.level.expr
    if largestWeight < e.weight then .error .tooLarge
    else return ofExpr e done.groupCount done.names

end Pattern

end Relabel
