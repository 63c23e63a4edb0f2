import Relabel.Path.Basic

/-!
# Entries of a batch

A file or directory that is to get a new name, and what has become of it.
-/

namespace Relabel

inductive Status
  | pending
  | ok
  | error
  | conflict
deriving DecidableEq, Repr

def Status.label : Status → Text
  | pending => "pending".toList
  | ok => "ok".toList
  | error => "error".toList
  | conflict => "conflict".toList

structure Entry where
  source : Text
  target : Text
  baseDir : Text
  targetPath : Text
  isDirectory : Bool
  /-- The place in the batch that has been processed. -/
  position : Nat
  status : Status
deriving DecidableEq, Repr

namespace Entry

def pending (baseDir source : Text) (isDirectory : Bool) : Entry :=
  ⟨source, source, baseDir, [], isDirectory, 0, .pending⟩

def sourcePath (e : Entry) : Text := Path.join e.baseDir e.source

def isChanged (e : Entry) : Bool := e.source != e.target

def renamed (e : Entry) (position : Nat) (target : Text) : Entry :=
  { e with target, position, status := .ok, targetPath := Path.join e.baseDir target }

end Entry

end Relabel
