import Relabel.Batch.Order
import Relabel.Pattern.Basic

/-!
# Scanning a directory

A batch is made up of the entries below a directory whose names a pattern matches, a directory
before its contents and siblings by the characters of their names. Links below the directory are
not followed.
-/

namespace Relabel

structure ScanOptions where
  root : Text
  recursive : Bool
  includeHidden : Bool
  includeDirectories : Bool
deriving DecidableEq, Repr

def isHidden (name : Text) : Bool := name.head? == some '.'

namespace ScanOptions

def isVisible (options : ScanOptions) (name : Text) : Bool :=
  options.includeHidden || !isHidden name

def isOffered (options : ScanOptions) (search : Pattern) (name : Text) (isDirectory : Bool) :
    Bool :=
  (options.includeDirectories || !isDirectory) && search.isMatch name

end ScanOptions

/-- The base directory of an entry, as a path through the directory spells it. -/
def baseOf (directory name : Text) : Text :=
  (Path.parent? (Path.join directory name)).getD directory

def inNameOrder (found : List (Text × List Entry)) : List Entry :=
  (found.mergeSort fun a b => (Text.order a.1 b.1).isLE).flatMap (·.2)

mutual
/-- What an entry brings to the batch: itself, if it is offered, and what lies below it. -/
def Node.collect (options : ScanOptions) (search : Pattern) (directory name : Text) :
    Node → List Entry
  | .directory entries _ =>
    let own := if options.isOffered search name true then
      [Entry.pending (baseOf directory name) name true] else []
    let below := if options.recursive then
      entries.collect options search (Path.join directory name) else []
    own ++ inNameOrder below
  | _ =>
    if options.isOffered search name false then
      [Entry.pending (baseOf directory name) name false] else []
def Listing.collect (options : ScanOptions) (search : Pattern) (directory : Text) :
    Listing → List (Text × List Entry)
  | .nil => []
  | .cons name node rest =>
    let others := rest.collect options search directory
    if options.isVisible name then
      (name, node.collect options search directory name) :: others
    else others
end

/-- The batch that a scan finds. -/
def Disk.scan (disk : Disk) (options : ScanOptions) (search : Pattern) :
    Except Failure (List Entry) :=
  match disk.node? options.root with
  | some (.directory entries _) =>
    .ok (inNameOrder (entries.collect options search options.root))
  | _ => .error (.notADirectory options.root)

end Relabel
