import Relabel.Text.Numeral

/-!
# Failures

What can go wrong with files, and how it is told.
-/

namespace Relabel

inductive Failure
  | unreadableTimes (path : Text)
  | unreadableSize (path : Text)
  | unwalkableDirectory (path : Text)
  | notADirectory (path : Text)
  | unopenableForDigest (path : Text)
  | unopenablePicture (path : Text)
  | unreadableSong (path : Text)
  | noExifTool
  | refusedByExifTool (path : Text)
  | unopenableRows (path : Text)
  | unreadableRow (number : Nat) (path : Text)
  | noSettingsDirectory
  | unreadableSettings (path : Text)
  | malformedSettings (path : Text)
  | unmakableSettingsDirectory (path : Text)
  | unwritableSettings (path : Text)
  /-- A failure that a source of metadata tells in its own words. -/
  | told (message : Text)
deriving DecidableEq, Repr

namespace Failure

def message : Failure → Text
  | unreadableTimes path => "could not read file metadata: ".toList ++ path
  | unreadableSize path => "could not read file size: ".toList ++ path
  | unwalkableDirectory path => "could not walk directory: ".toList ++ path
  | notADirectory path => "not a directory: ".toList ++ path
  | unopenableForDigest path => "could not open file for hashing: ".toList ++ path
  | unopenablePicture path => "could not open file for EXIF: ".toList ++ path
  | unreadableSong path => "could not read ID3 tag: ".toList ++ path
  | noExifTool => "could not start exiftool".toList
  | refusedByExifTool path => "exiftool could not read ".toList ++ path
  | unopenableRows path => "failed to open csv file: ".toList ++ path
  | unreadableRow number path =>
    "failed to read csv row ".toList ++ Text.decimal number ++ " of ".toList ++ path
  | noSettingsDirectory => "could not determine the platform config directory".toList
  | unreadableSettings path => "failed to read config file: ".toList ++ path
  | malformedSettings path => "failed to parse config file: ".toList ++ path
  | unmakableSettingsDirectory path => "failed to create config directory: ".toList ++ path
  | unwritableSettings path => "failed to write config file: ".toList ++ path
  | told message => message

end Failure

end Relabel
