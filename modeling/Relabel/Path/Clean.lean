import Relabel.Path.Basic

/-!
# Clean paths

Cleaning drops what means nothing in a path and lets every `..` consume the name before it,
without a look at the disk. Names are kept on a stack, the last one on top.
-/

namespace Relabel.Path

/-- What one piece does to the names so far. Above the root there is nothing to go to. -/
def pushPiece (rooted : Bool) (names : List Text) (piece : Text) : List Text :=
  if isIdle piece then names
  else if piece = ['.', '.'] then
    match names with
    -- A `..` that has stayed has nothing before it to consume, so the next one stays as well.
    | top :: rest => if top ≠ ['.', '.'] then rest else if rooted then names else piece :: names
    | [] => if rooted then [] else [piece]
  else piece :: names

def cleanNames (path : Text) : List Text :=
  ((Text.pieces '/' path).foldl (pushPiece (isRooted path)) []).reverse

def clean (path : Text) : Text :=
  let names := Text.joinWith '/' (cleanNames path)
  if isRooted path then '/' :: names
  else if names = [] then ['.']
  else names

end Relabel.Path
