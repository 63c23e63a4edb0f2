import Relabel.Pattern.Program

/-!
# Running a search

A search keeps, for each place in the text, the list of its threads in order of preference: a
thread stands at an instruction that waits for a character, or at the end of a match. An
instruction is visited once per place, by the most preferred thread that reaches it. When a thread
ends, the ones after it are given up and the ones before it go on; the last end found is the
preferred match.
-/

namespace Relabel

/-- Part of a text, by the numbers of characters before its two ends. -/
structure Span where
  start : Nat
  stop : Nat
deriving DecidableEq, Repr

namespace Span

def isEmpty (s : Span) : Bool := s.start == s.stop

def text (s : Span) (whole : Text) : Text := (whole.drop s.start).take (s.stop - s.start)

end Span

abbrev Marks := List (Nat × Nat)

structure Place where
  before : Option Char
  after : Option Char
  position : Nat

structure Thread where
  instruction : Instruction
  marks : Marks

namespace Thread

def ended (t : Thread) : Bool :=
  match t.instruction with
  | .accept => true
  | _ => false

def step? (c : Char) (t : Thread) : Option (Nat × Marks) :=
  match t.instruction with
  | .char accepted next => if accepted.accepts c then some (next, t.marks) else none
  | _ => none

end Thread

namespace Program

/-- The threads that an instruction leads to at a place without consuming a character, and the
instructions visited so far. Each visit adds one, so the number of instructions bounds the depth. -/
def reach (p : Program) (here : Place) :
    Nat → Nat → Marks → List Nat → List Thread × List Nat
  | 0, _, _, visited => ([], visited)
  | depth + 1, address, marks, visited =>
    if visited.contains address then ([], visited)
    else
      let visited := address :: visited
      match p.instruction? address with
      | none => ([], visited)
      | some (.look assertion next) =>
        if assertion.holds here.before here.after then p.reach here depth next marks visited
        else ([], visited)
      | some (.mark slot next) => p.reach here depth next ((slot, here.position) :: marks) visited
      | some (.fork first second) =>
        let (preferred, visited) := p.reach here depth first marks visited
        let (others, visited) := p.reach here depth second marks visited
        (preferred ++ others, visited)
      | some instruction => ([⟨instruction, marks⟩], visited)

def threadsAt (p : Program) (here : Place) : List (Nat × Marks) → List Nat → List Thread
  | [], _ => []
  | (address, marks) :: others, visited =>
    let (threads, visited) := p.reach here (p.code.size + 1) address marks visited
    threads ++ p.threadsAt here others visited

def run (p : Program) (before : Option Char) (position : Nat) (arrivals : List (Nat × Marks))
    (best : Option (Nat × Marks)) : Text → Option (Nat × Marks)
  | [] =>
    let threads := p.threadsAt ⟨before, none, position⟩ arrivals []
    ((threads.find? Thread.ended).map fun t => (position, t.marks)) <|> best
  | c :: rest =>
    let threads := p.threadsAt ⟨before, some c, position⟩ arrivals []
    let best := ((threads.find? Thread.ended).map fun t => (position, t.marks)) <|> best
    -- Only threads preferred to the one that has ended go on.
    match (threads.takeWhile fun t => !t.ended).filterMap (Thread.step? c) with
    | [] => best
    | arrivals => p.run (some c) (position + 1) arrivals best rest

/-- The first place from which a match starts, where it ends, and its marks. -/
def search (p : Program) (before : Option Char) (position : Nat) (text : Text) :
    Option (Span × Marks) :=
  match p.run before position [(p.start, [])] none text with
  | some (stop, marks) => some (⟨position, stop⟩, marks)
  | none =>
    match text with
    | [] => none
    | c :: rest => p.search (some c) (position + 1) rest

end Program

end Relabel
