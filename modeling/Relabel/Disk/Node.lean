import Relabel.Text.Basic

/-!
# Directory trees

What a disk holds: files with their bytes, symbolic links with the paths that they point to, and
directories, whose entries keep the order in which they were made.
-/

namespace Relabel

/-- What a disk records of a node: times in seconds since the start of 1970, and how many bytes a
directory itself takes, which is up to the disk. -/
structure Stamps where
  modified : Int
  accessed : Int
  created : Int
  changed : Int
  directorySize : Nat
deriving DecidableEq, Repr

/-- A node is new at a time, and a new directory takes one block. -/
def Stamps.at (time : Int) : Stamps := ⟨time, time, time, time, 4096⟩

mutual
inductive Node
  | file (content : ByteArray) (stamps : Stamps)
  | link (target : Text) (stamps : Stamps)
  | directory (entries : Listing) (stamps : Stamps)
inductive Listing
  | nil
  | cons (name : Text) (node : Node) (rest : Listing)
end

namespace Node

def stamps : Node → Stamps
  | file _ s => s
  | link _ s => s
  | directory _ s => s

def withStamps (s : Stamps) : Node → Node
  | file content _ => file content s
  | link target _ => link target s
  | directory entries _ => directory entries s

def isDirectory : Node → Bool
  | directory .. => true
  | _ => false

end Node

namespace Listing

def find? (name : Text) : Listing → Option Node
  | nil => none
  | cons other node rest => if name = other then some node else rest.find? name

def set (name : Text) (node : Node) : Listing → Listing
  | nil => cons name node nil
  | cons other old rest =>
    if name = other then cons other node rest else cons other old (rest.set name node)

def names : Listing → List Text
  | nil => []
  | cons name _ rest => name :: rest.names

theorem find?_set (listing : Listing) (name other : Text) (node : Node) :
    (listing.set name node).find? other =
      if other = name then some node else listing.find? other := by
  cases listing with
  | nil => simp [set, find?]
  | cons held old rest =>
    have ih := rest.find?_set name other node
    simp only [set]
    split
    case isTrue h => subst h; simp only [find?]; split <;> simp_all
    case isFalse h =>
      simp only [find?, ih]
      by_cases ho : other = held <;> simp [ho, Ne.symm h]

end Listing

namespace Node

def descend (node : Node) : List Text → Option Node
  | [] => some node
  | name :: rest =>
    match node with
    | directory entries _ => (entries.find? name).bind fun child => child.descend rest
    | _ => none

/-- Changes the node that the names lead to; directories on the way take note of the time when
an entry is new to them. -/
def update (change : Option Node → Option Node) (time : Int) (node : Node) :
    List Text → Option Node
  | [] => change (some node)
  | [name] =>
    match node with
    | directory entries s =>
      let old := entries.find? name
      (change old).map fun new =>
        directory (entries.set name new)
          (if old.isSome then s else { s with modified := time, changed := time })
    | _ => none
  | name :: rest =>
    match node with
    | directory entries s => do
      let child ← entries.find? name
      let child ← child.update change time rest
      return directory (entries.set name child) s
    | _ => none

end Node

end Relabel
