import Relabel.Disk.Node
import Relabel.Path.Basic

/-!
# Disks

A disk is a directory tree with a current directory. Paths are followed piece by piece, through
symbolic links; a place on the disk is given by the names that lead to it from the root.
-/

namespace Relabel

structure Disk where
  root : Node
  /-- The names that lead to the current directory. -/
  current : List Text

namespace Disk

def nodeAt (disk : Disk) (place : List Text) : Option Node := disk.root.descend place

def isDirectoryAt (disk : Disk) (place : List Text) : Bool :=
  (disk.nodeAt place).any Node.isDirectory

def mostLinks : Nat := 40

/-- Follows pieces of a path from a place, whose names come last one first. If `fresh`, nothing has
to stand at the last name. -/
def follow (disk : Disk) (fresh : Bool) (links : Nat) (place : List Text) (pieces : List Text) :
    Option (List Text) :=
  match pieces with
  | [] => some place
  | piece :: rest =>
    if !disk.isDirectoryAt place.reverse then none
    else if Path.isIdle piece then disk.follow fresh links place rest
    else if piece = ['.', '.'] then disk.follow fresh links place.tail rest
    else
      match disk.nodeAt (piece :: place).reverse with
      | none => if fresh ∧ rest = [] then some (piece :: place) else none
      | some (.link target _) =>
        match links with
        | 0 => none
        | links + 1 =>
          disk.follow fresh links (if Path.isRooted target then [] else place)
            (Text.pieces '/' target ++ rest)
      | some _ => disk.follow fresh links (piece :: place) rest
termination_by (links, pieces.length)

def startOf (disk : Disk) (path : Text) : List Text :=
  if Path.isRooted path then [] else disk.current.reverse

def locate? (disk : Disk) (path : Text) : Option (List Text) :=
  if path = [] then none
  else (disk.follow false mostLinks (disk.startOf path) (Text.pieces '/' path)).map List.reverse

def node? (disk : Disk) (path : Text) : Option Node := (disk.locate? path).bind disk.nodeAt

def canonical? (disk : Disk) (path : Text) : Option Text :=
  (disk.locate? path).map fun place => '/' :: Text.joinWith '/' place

def isDirectory (disk : Disk) (path : Text) : Bool := (disk.node? path).any Node.isDirectory

def holds (disk : Disk) (path : Text) : Bool := (disk.node? path).isSome

def content? (disk : Disk) (path : Text) : Option ByteArray :=
  match disk.node? path with
  | some (.file content _) => some content
  | _ => none

end Disk

end Relabel
