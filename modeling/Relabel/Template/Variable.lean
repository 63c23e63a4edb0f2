import Relabel.Metadata.Digest
import Relabel.Metadata.FileTimes
import Relabel.Metadata.Picture
import Relabel.Metadata.Song
import Relabel.Numbering.Index
import Relabel.Transform

/-!
# Variables

What a template may ask for, kind by kind.
-/

namespace Relabel

inductive VariableKind
  | stem
  | extension
  | parent
  | picture
  | index
  | song
  | digest
  | time
  | exifTool
  | capture
  | column
deriving DecidableEq, Repr

namespace VariableKind

def all : List VariableKind := [
  stem, extension, parent, picture, index, song, digest, time, exifTool, capture, column]

def resolutionOrder : List VariableKind := [
  stem, extension, parent, index, capture, time, digest, picture, exifTool, song, column]

theorem mem_all (kind : VariableKind) : kind ∈ all := by cases kind <;> decide

theorem mem_resolutionOrder (kind : VariableKind) : kind ∈ resolutionOrder := by
  cases kind <;> decide

end VariableKind

inductive CaptureFormat
  | text (t : Transform)
  | date (field : DateField)
deriving DecidableEq, Repr

inductive Variable
  | stem (t : Option Transform)
  | extension (t : Option Transform)
  /-- The name of the directory so many levels above the file. -/
  | parent (levels : Nat) (t : Option Transform)
  | picture (item : PictureAttribute) (field : Option DateField) (t : Option Transform)
  | index (index : Index)
  | song (tag : SongTag) (t : Option Transform)
  | digest (algorithm : DigestAlgorithm) (t : Option Transform)
  | time (item : TimeAttribute) (field : DateField) (t : Option Transform)
  | exifTool (tag : Text) (t : Option Transform)
  /-- A group of the find pattern, or the whole match. -/
  | capture (group : Option Nat) (format : CaptureFormat)
  /-- A column of the file's row, counted from 1. -/
  | column (number : Nat) (t : Option Transform)
deriving DecidableEq, Repr

namespace Variable

def kind : Variable → VariableKind
  | stem .. => .stem
  | extension .. => .extension
  | parent .. => .parent
  | picture .. => .picture
  | index .. => .index
  | song .. => .song
  | digest .. => .digest
  | time .. => .time
  | exifTool .. => .exifTool
  | capture .. => .capture
  | column .. => .column

def index? : Variable → Option Index
  | index i => some i
  | _ => none

end Variable

end Relabel
