import Relabel.Pattern.Escape

/-!
# Bracketed classes

A class in brackets lists characters, ranges, escapes, named ASCII classes and further brackets.
What is listed side by side is united; `&&`, `--` and `~~` combine such unions from left to right.
-/

namespace Relabel

namespace Bracket

def asciiRanges? (name : Text) : Option (List (Char × Char)) :=
  let classes : List (String × List (Char × Char)) := [
    ("alnum", [('0', '9'), ('A', 'Z'), ('a', 'z')]),
    ("alpha", [('A', 'Z'), ('a', 'z')]),
    ("ascii", [('\x00', '\x7f')]),
    ("blank", [('\t', '\t'), (' ', ' ')]),
    ("cntrl", [('\x00', '\x1f'), ('\x7f', '\x7f')]),
    ("digit", [('0', '9')]),
    ("graph", [('!', '~')]),
    ("lower", [('a', 'z')]),
    ("print", [(' ', '~')]),
    ("punct", [('!', '/'), (':', '@'), ('[', '\x60'), ('\x7b', '~')]),
    ("space", [('\t', '\r'), (' ', ' ')]),
    ("upper", [('A', 'Z')]),
    ("word", [('0', '9'), ('A', 'Z'), ('_', '_'), ('a', 'z')]),
    ("xdigit", [('0', '9'), ('A', 'F'), ('a', 'f')])]
  (classes.find? (·.1.toList == name)).map (·.2)

/-- A named class behind its opening bracket, such as `:alpha:]` or `:^alpha:]`, and whether its
complement is meant. -/
def readAscii? : Text → Option ((CharClass × Bool) × Text)
  | ':' :: rest => do
    let (negated, rest) := match rest with
      | '^' :: rest => (true, rest)
      | rest => (false, rest)
    match rest.span (· != ':') with
    | (name, ':' :: ']' :: rest) =>
      let ranges ← asciiRanges? name
      some ((.ofRanges ranges, negated), rest)
    | _ => none
  | _ => none

/-- White space and comments, which the extended syntax passes over. -/
def skipBlanks (extended : Bool) : Text → Text
  | [] => []
  | c :: rest =>
    if extended && isBlank c then skipBlanks extended rest
    else if extended && c == '#' then skipComment rest
    else c :: rest
where
  /-- Passes over the rest of the line, and then over what blanks follow. -/
  skipComment : Text → Text
    | [] => []
    | c :: rest => if c == '\n' then skipBlanks extended rest else skipComment rest

def readItem (flags : PatternFlags) : Text → Except PatternError (Escape.Meaning × Text)
  | '\\' :: rest => Escape.read flags rest
  | c :: rest => .ok (.char c, rest)
  | [] => .error .unclosedClass

def rangeClass (flags : PatternFlags) (first last : Char) : Except PatternError CharClass :=
  if last < first then .error .badClass
  else if flags.knows last then .ok (.range first last)
  else .error .beyondAscii

def itemClass (flags : PatternFlags) : Escape.Meaning → Except PatternError CharClass
  | .char c => rangeClass flags c c
  | .chars accepted => .ok accepted
  | .look _ => .error .badClass

/-- One item, or a range of two. A hyphen before the closing bracket or another one is literal. -/
def readRange (flags : PatternFlags) (text : Text) : Except PatternError (CharClass × Text) := do
  let (first, rest) ← readItem flags text
  let rest := skipBlanks flags.extended rest
  match rest with
  | [] => .error .unclosedClass
  | '-' :: tail =>
    let tail := skipBlanks flags.extended tail
    match tail with
    | [] => .error .unclosedClass
    | c :: _ =>
      if c = ']' ∨ c = '-' then return (← itemClass flags first, rest)
      else
        let (last, rest) ← readItem flags tail
        match first, last with
        | .char a, .char b => return (← rangeClass flags a b, rest)
        | _, _ => .error .badClass
  | _ => return (← itemClass flags first, rest)

inductive Operation
  | intersection
  | difference
  | symmetricDifference

def Operation.apply : Operation → CharClass → CharClass → CharClass
  | intersection => .inter
  | difference => .difference
  | symmetricDifference => .symmetricDifference

/-- Joins the union read last to what the operators before it have made. -/
def settle (flags : PatternFlags) (left : Option (CharClass × Operation)) (union : CharClass) :
    CharClass :=
  match left with
  | none => flags.fold union
  | some (a, op) => op.apply (flags.fold a) (flags.fold union)

def leadingHyphens (extended : Bool) : Nat → Text → Bool × Text
  | 0, text => (false, text)
  | bound + 1, text =>
    match skipBlanks extended text with
    | '-' :: rest => (true, (leadingHyphens extended bound rest).2)
    | rest => (false, rest)

def readFront (extended : Bool) (text : Text) : Bool × CharClass × Text :=
  let text := skipBlanks extended text
  let (negated, text) := match text with
    | '^' :: rest => (true, skipBlanks extended rest)
    | _ => (false, text)
  let (hyphen, text) := leadingHyphens extended text.length text
  if hyphen then (negated, .single '-', text)
  else match text with
    | ']' :: rest => (negated, .single ']', rest)
    | _ => (negated, .empty, text)

mutual

def read (flags : PatternFlags) : Nat → Text → Except PatternError (CharClass × Text)
  -- A class behind its opening bracket. Every call consumes, so the text bounds their number.
  | 0, _ => .error .unclosedClass
  | bound + 1, text => do
    let (negated, union, text) := readFront flags.extended text
    let (accepted, text) ← readItems flags bound none union text
    return (← flags.negate negated (flags.fold accepted), text)

def readItems (flags : PatternFlags) :
    Nat → Option (CharClass × Operation) → CharClass → Text →
    Except PatternError (CharClass × Text)
  | 0, _, _, _ => .error .unclosedClass
  | bound + 1, left, union, text =>
    match skipBlanks flags.extended text with
    | [] => .error .unclosedClass
    | ']' :: rest => .ok (settle flags left union, rest)
    | '[' :: rest =>
      match readAscii? rest with
      | some ((accepted, negated), rest) => do
        let accepted ← flags.negate negated (flags.fold accepted)
        readItems flags bound left (union.union accepted) rest
      | none => do
        let (accepted, rest) ← read flags bound rest
        readItems flags bound left (union.union accepted) rest
    | '&' :: '&' :: rest =>
      readItems flags bound (some (settle flags left union, .intersection))
        .empty rest
    | '-' :: '-' :: rest =>
      readItems flags bound (some (settle flags left union, .difference))
        .empty rest
    | '~' :: '~' :: rest =>
      readItems flags bound
        (some (settle flags left union, .symmetricDifference)) .empty rest
    | rest => do
      let (accepted, rest) ← readRange flags rest
      readItems flags bound left (union.union accepted) rest

end

end Bracket

end Relabel
