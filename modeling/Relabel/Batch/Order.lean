import Relabel.Batch.Entry
import Relabel.Disk.Change
import Relabel.Failure
import Relabel.Text.NaturalOrder

/-!
# Ordering a batch

A batch may be ordered by path, size or time, and so that directories come before what lies below
them. Entries that compare equal keep their order.
-/

namespace Relabel

inductive SortCriterion
  | default
  | natural
  | size
  | modified
  | birth
  | access
  | change
deriving DecidableEq, Repr

namespace SortCriterion

def all : List SortCriterion := [default, natural, size, modified, birth, access, change]

def label : SortCriterion → Text
  | default => "default".toList
  | natural => "natural".toList
  | size => "size".toList
  | modified => "mtime".toList
  | birth => "btime".toList
  | access => "atime".toList
  | change => "ctime".toList

def ofLabel? (label : Text) : Option SortCriterion := all.find? (·.label = label)

theorem ofLabel?_label (c : SortCriterion) : ofLabel? c.label = some c := by cases c <;> rfl

end SortCriterion

inductive SortKey
  | path (path : Text)
  | naturalPath (path : Text)
  | size (bytes : Nat)
  | time (unix : Int)
deriving DecidableEq, Repr

namespace SortKey

/-- The keys of one batch are of one kind; of two kinds neither comes first. -/
def order : SortKey → SortKey → Ordering
  | path a, path b => Text.order a b
  | naturalPath a, naturalPath b => Text.naturalOrder a b
  | size a, size b => compare a b
  | time a, time b => compare a b
  | _, _ => .eq

end SortKey

mutual
def Node.totalSize : Node → Nat
  | .file content _ => content.size
  | .link .. => 0
  | .directory entries _ => entries.totalSize
def Listing.totalSize : Listing → Nat
  | .nil => 0
  | .cons _ node rest => node.totalSize + rest.totalSize
end

namespace Disk

def stamps (disk : Disk) (path : Text) : Except Failure Stamps :=
  match disk.node? path with
  | some node => .ok node.stamps
  | none => .error (.unreadableTimes path)

/-- The size of an entry. What is marked as a directory is walked: the size is that of the files
below it, and a link to a file is none of them. -/
def entrySize (disk : Disk) (path : Text) (isDirectory : Bool) : Except Failure Nat :=
  match disk.node? path with
  | none => .error (if isDirectory then .unwalkableDirectory path else .unreadableSize path)
  | some (.directory entries stamps) =>
    .ok (if isDirectory then entries.totalSize else stamps.directorySize)
  | some node => .ok (if isDirectory ∧ disk.isLink path then 0 else node.totalSize)

end Disk

namespace Entry

def sortKey (disk : Disk) (criterion : SortCriterion) (e : Entry) : Except Failure SortKey :=
  match criterion with
  | .default => .ok (.path e.sourcePath)
  | .natural => .ok (.naturalPath e.sourcePath)
  | .size => (disk.entrySize e.sourcePath e.isDirectory).map .size
  | .modified => (disk.stamps e.sourcePath).map fun s => .time s.modified
  | .birth => (disk.stamps e.sourcePath).map fun s => .time s.created
  | .access => (disk.stamps e.sourcePath).map fun s => .time s.accessed
  | .change => (disk.stamps e.sourcePath).map fun s => .time s.changed

end Entry

def inOrder (reverse : Bool) (order : Ordering) : Bool :=
  if reverse then order.isGE else order.isLE

def sortEntries (disk : Disk) (criterion : SortCriterion) (reverse : Bool)
    (entries : List Entry) : Except Failure (List Entry) := do
  let keys ← entries.mapM (·.sortKey disk criterion)
  -- Equals are in order both ways, so a reversed batch keeps them as they came too.
  let sorted := (keys.zip entries).mergeSort fun a b => inOrder reverse (a.1.order b.1)
  return sorted.map (·.2)

def parentsFirst (entries : List Entry) : List Entry :=
  entries.mergeSort fun a b => Path.depth a.baseDir ≤ Path.depth b.baseDir

end Relabel
