import Relabel.Text.Basic

/-!
# Paths

A path is kept as it is spelled. It may start at the root or with a dot for the current
directory; its further pieces stand between slashes, and the empty ones and the dots among them
mean nothing.
-/

namespace Relabel

inductive Component
  | root
  | current
  | parent
  | name (text : Text)
deriving DecidableEq, Repr

namespace Path

def isRooted (path : Text) : Bool := path.head? == some '/'

/-- The slash or the dot that a path may start with, and the pieces behind it. -/
def parts (path : Text) : Text × List Text :=
  match path with
  | '/' :: rest => (['/'], Text.pieces '/' rest)
  | ['.'] => (['.'], [])
  | '.' :: '/' :: rest => (['.'], [] :: Text.pieces '/' rest)
  | _ => ([], Text.pieces '/' path)

def isIdle (piece : Text) : Bool := piece == [] || piece == ['.']

def trimPieces (pieces : List Text) : List Text := (pieces.reverse.dropWhile isIdle).reverse

def pieceComponent (piece : Text) : Component :=
  if piece = ['.', '.'] then .parent else .name piece

def components (path : Text) : List Component :=
  let (lead, pieces) := parts path
  (match lead with
    | ['/'] => [.root]
    | ['.'] => [.current]
    | _ => []) ++ (pieces.filter fun piece => !isIdle piece).map pieceComponent

def depth (path : Text) : Nat := (components path).length

def parent? (path : Text) : Option Text :=
  let (lead, pieces) := parts path
  match trimPieces pieces with
  | [] => if lead = ['.'] then some [] else none
  | pieces => some (lead ++ Text.joinWith '/' (trimPieces pieces.dropLast))

def fileName? (path : Text) : Option Text :=
  match (components path).getLast? with
  | some (.name text) => some text
  | _ => none

/-- The path with its last `levels` components left out. -/
def ancestor? (path : Text) : Nat → Option Text
  | 0 => some path
  | levels + 1 => (parent? path).bind fun parent => ancestor? parent levels

def join (base path : Text) : Text :=
  if isRooted path then path
  else if base = [] ∨ base.getLast? = some '/' then base ++ path
  else base ++ '/' :: path

end Path

end Relabel
