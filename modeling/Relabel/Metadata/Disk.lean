import Relabel.Batch.Order
import Relabel.Digest.Blake3
import Relabel.Digest.Sha2
import Relabel.Json.Reader
import Relabel.Metadata.Source
import Relabel.Picture.Record
import Relabel.Rows.Table
import Relabel.Song.Record

/-!
# Metadata from a disk

The metadata of files as a disk, a table of rows and a tool for tags tell them. Directories have
no contents, so they have empty digests and neither picture nor song data.
-/

namespace Relabel

def DigestAlgorithm.bytes : DigestAlgorithm → List UInt8 → List UInt8
  | sha224 => Digest.sha224
  | sha256 => Digest.sha256
  | sha384 => Digest.sha384
  | sha512 => Digest.sha512
  | blake3 => Digest.Blake3.digest

def DigestAlgorithm.digest (algorithm : DigestAlgorithm) (content : ByteArray) : Text :=
  Digest.hex (algorithm.bytes content.data.toList)

def Stamps.fileTimes (zone : Zone) (s : Stamps) : FileTimes :=
  let moment (unix : Int) := Moment.ofUnix zone unix 0
  ⟨moment s.modified, moment s.accessed, some (moment s.created), some (moment s.changed)⟩

namespace Json

def tagText : Json → Text
  | null => []
  | text value => value
  | value => value.compact

/-- The tags of one file: those of an object, or of the first object in an array. -/
def tags : Json → List (Text × Text)
  | object members => members.toList.map fun (tag, value) => (tag, value.tagText)
  | array (.cons (object members) _) =>
    members.toList.map fun (tag, value) => (tag, value.tagText)
  | _ => []

/-- The first item of an array. -/
def first? : Json → Option Json
  | array (.cons item _) => some item
  | _ => none

end Json

abbrev ExifTool := Text → Text

def ExifTool.tags (tool : ExifTool) (path : Text) : Except Failure (List (Text × Text)) :=
  match (Json.read? (tool path)).bind Json.first? with
  | some value => .ok value.tags
  | none => .error (.refusedByExifTool path)

namespace MetadataSource

/-- The answer from the contents of a file, one answer being given for all directories. -/
def fromContent (disk : Disk) (path : Text) (forDirectory : α) (missing : Failure)
    (answer : ByteArray → Except Failure α) : Except Failure α :=
  if disk.isDirectory path then .ok forDirectory
  else match disk.content? path with
    | some content => answer content
    | none => .error missing

/-- The source that reads the files on a disk; there may be no tool for tags. -/
def ofDisk (disk : Disk) (zone : Zone) (rows : RowTable) (tool : Option ExifTool) :
    MetadataSource where
  times path := (disk.stamps path).map (Stamps.fileTimes zone)
  digest algorithm path :=
    fromContent disk path [] (.unopenableForDigest path) fun content =>
      .ok (algorithm.digest content)
  picture path :=
    fromContent disk path .empty (.unopenablePicture path) fun content =>
      .ok (.read zone content)
  exifTool path :=
    match tool with
    | some tool => tool.tags path
    | none => .error .noExifTool
  song path :=
    fromContent disk path .empty (.unreadableSong path) fun content =>
      match SongData.read? content.data.toList with
      | some data => .ok data
      | none => .error (.unreadableSong path)
  column number path := rows.column disk number path

end MetadataSource

end Relabel
