import Relabel.Failure
import Relabel.Metadata.Digest
import Relabel.Metadata.FileTimes
import Relabel.Metadata.Picture
import Relabel.Metadata.Song

/-!
# Sources of metadata

A source answers what is asked about the file at a path. A missing value is an answer; a failure
means that the question could not be answered at all.
-/

namespace Relabel

structure MetadataSource where
  times : Text → Except Failure FileTimes
  digest : DigestAlgorithm → Text → Except Failure Text
  picture : Text → Except Failure PictureData
  exifTool : Text → Except Failure (List (Text × Text))
  song : Text → Except Failure SongData
  column : Nat → Text → Option Text

inductive Query
  | times
  | digest (algorithm : DigestAlgorithm)
  | picture
  | exifTool
  | song
  | column (number : Nat)
deriving DecidableEq, Repr

structure Lookup where
  query : Query
  path : Text
deriving DecidableEq, Repr

end Relabel
