import Relabel.Disk.Basic

/-!
# Changing a disk

Files are written through links; directories are made with the ones that they need above them.
-/

namespace Relabel.Disk

/-- The place of a file that is written under a path; a link to where nothing stands leads there. -/
def placeFor? (disk : Disk) (path : Text) : Option (List Text) :=
  if path = [] then none
  else (disk.follow true mostLinks (disk.startOf path) (Text.pieces '/' path)).map List.reverse

/-- The place of the entry that a path names, which may be a link or missing. -/
def entryFor? (disk : Disk) (path : Text) : Option (List Text) :=
  match (Text.pieces '/' path).reverse with
  | [] => none
  | name :: above =>
    if Path.isIdle name || name == ['.', '.'] then none
    else
      (disk.follow false mostLinks (disk.startOf path) above.reverse).map
        fun place => (name :: place).reverse

def isLink (disk : Disk) (path : Text) : Bool :=
  match (disk.entryFor? path).bind disk.nodeAt with
  | some (.link ..) => true
  | _ => false

def change (disk : Disk) (time : Int) (place : List Text) (f : Option Node → Option Node) :
    Option Disk :=
  (disk.root.update f time place).map fun root => { disk with root }

/-- Writes a file. One that exists keeps the time when it was made. -/
def write? (disk : Disk) (time : Int) (path : Text) (content : ByteArray) : Option Disk := do
  let place ← disk.placeFor? path
  disk.change time place fun
    | none => some (.file content (.at time))
    | some (.file _ s) => some (.file content { s with modified := time, changed := time })
    | some _ => none

def makeLink? (disk : Disk) (time : Int) (path target : Text) : Option Disk := do
  let place ← disk.entryFor? path
  disk.change time place fun
    | none => some (.link target (.at time))
    | some _ => none

def makeDirectoriesFrom (disk : Disk) (time : Int) (place : List Text) : List Text → Option Disk
  | [] => some disk
  | piece :: rest =>
    if Path.isIdle piece then disk.makeDirectoriesFrom time place rest
    else do
      let path := '/' :: Text.joinWith '/' (place ++ [piece])
      match disk.locate? path with
      | some next =>
        if disk.isDirectoryAt next then disk.makeDirectoriesFrom time next rest else none
      | none =>
        let next := place ++ [piece]
        let disk ← disk.change time next fun
          | none => some (.directory .nil (.at time))
          | some _ => none
        disk.makeDirectoriesFrom time next rest

def makeDirectories? (disk : Disk) (time : Int) (path : Text) : Option Disk :=
  disk.makeDirectoriesFrom time (disk.startOf path).reverse (Text.pieces '/' path)

def setTimes? (disk : Disk) (time modified accessed : Int) (path : Text) : Option Disk := do
  let place ← disk.locate? path
  disk.change time place fun node =>
    node.map fun node => node.withStamps { node.stamps with modified, accessed, changed := time }

end Relabel.Disk
