import Relabel.Pattern.Expr

/-!
# Search programs

An expression becomes a graph of instructions in which every one knows where the search goes on.
A loop whose body may consume nothing is entered through a fork of its own, so that the order of
preference is kept when the body is left without progress.
-/

namespace Relabel

inductive Instruction
  | char (accepted : CharClass) (next : Nat)
  | look (assertion : Assertion) (next : Nat)
  | mark (slot : Nat) (next : Nat)
  /-- Goes on at the first instruction, or at the second if that fails. -/
  | fork (first second : Nat)
  | accept
deriving Repr, Inhabited

/-- Adds the instructions of an expression that goes on at the given one, and gives its entry. -/
abbrev Emitter := Nat → Array Instruction → Nat × Array Instruction

namespace Emitter

def add (instruction : Instruction) (code : Array Instruction) : Nat × Array Instruction :=
  (code.size, code.push instruction)

/-- A fork that prefers to go on in the body if `greedy`, and to leave otherwise. -/
def choice (greedy : Bool) (body leave : Nat) : Instruction :=
  if greedy then .fork body leave else .fork leave body

def copies (body : Emitter) : Nat → Emitter
  | 0, next, code => (next, code)
  | n + 1, next, code =>
    let (entry, code) := copies body n next code
    body entry code

def optionals (body : Emitter) (greedy : Bool) : Nat → Emitter
  | 0, next, code => (next, code)
  | n + 1, next, code =>
    let (later, code) := optionals body greedy n next code
    let (entry, code) := body later code
    add (choice greedy entry next) code

def loop (body : Emitter) (greedy : Bool) (next : Nat) (code : Array Instruction) :
    Nat × Nat × Array Instruction :=
  let again := code.size
  -- The body has to know where the fork is before the fork can know the body.
  let (entry, code) := body again (code.push (.fork next next))
  (entry, again, code.setIfInBounds again (choice greedy entry next))

def unbounded (body : Emitter) (nullable greedy : Bool) (least next : Nat)
    (code : Array Instruction) : Nat × Array Instruction :=
  let (entry, again, code) := loop body greedy next code
  match least with
  | n + 1 => copies body n entry code
  | 0 => if nullable then add (choice greedy entry next) code else (again, code)

end Emitter

def Expr.emit : Expr → Emitter
  | empty, next, code => (next, code)
  | char accepted, next, code => Emitter.add (.char accepted next) code
  | look assertion, next, code => Emitter.add (.look assertion next) code
  | group number body, next, code =>
    let (close, code) := Emitter.add (.mark (2 * number + 1) next) code
    let (entry, code) := body.emit close code
    Emitter.add (.mark (2 * number) entry) code
  | seq first second, next, code =>
    let (middle, code) := second.emit next code
    first.emit middle code
  | alt first second, next, code =>
    let (entry, code) := first.emit next code
    let (other, code) := second.emit next code
    Emitter.add (.fork entry other) code
  | repeated body least (some most) greedy, next, code =>
    let (later, code) := Emitter.optionals body.emit greedy (most - least) next code
    Emitter.copies body.emit least later code
  | repeated body least none greedy, next, code =>
    Emitter.unbounded body.emit body.nullable greedy least next code

structure Program where
  code : Array Instruction
  start : Nat
deriving Repr, Inhabited

/-- The program of an expression; its instruction 0 is where a match ends. -/
def Expr.program (e : Expr) : Program :=
  let (start, code) := e.emit 0 #[.accept]
  ⟨code, start⟩

def Program.instruction? (p : Program) (address : Nat) : Option Instruction := p.code[address]?

end Relabel
