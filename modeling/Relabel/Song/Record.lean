import Relabel.Metadata.Song
import Relabel.Song.Frames
import Relabel.Text.Numeral

/-!
# Reading song data

What the frames of an audio tag tell of a song. Of frames with one name the last counts.
-/

namespace Relabel

namespace Song

def largestNumber : Nat := 4294967295

def textOf? (frames : List Frame) (name : String) : Option Text :=
  (frames.reverse.find? (·.name = name.toList)).map (·.text)

def separates (c : Char) : Bool := c == '/' || c == '\u0000'

def numberOf? (frames : List Frame) (name : String) : Option (Nat × Option Nat) := do
  let (first, rest) := (← textOf? frames name).span fun c => !separates c
  let number ← Text.signedNumberUpTo? largestNumber first
  return (number, Text.signedNumberUpTo? largestNumber (rest.drop 1))

/-- A year of at most 32 bits, whose zeros in front do not count. -/
def year? (text : Text) : Option Int :=
  match text.dropWhile (· = '0') with
  | '-' :: digits => (Text.numberUpTo? 2147483648 digits).map fun n => -(n : Int)
  | digits => (Text.signedNumberUpTo? 2147483647 digits).map fun n => (n : Int)

def record (frames : List Frame) : SongData where
  title := textOf? frames "TIT2"
  artist := textOf? frames "TPE1"
  album := textOf? frames "TALB"
  albumArtist := textOf? frames "TPE2"
  genre := textOf? frames "TCON"
  year := ((textOf? frames "TYER").bind year?).map Text.integer
  track := (numberOf? frames "TRCK").map fun n => Text.decimal n.1
  totalTracks := ((numberOf? frames "TRCK").bind (·.2)).map Text.decimal
  disc := (numberOf? frames "TPOS").map fun n => Text.decimal n.1
  totalDiscs := ((numberOf? frames "TPOS").bind (·.2)).map Text.decimal

end Song

/-- The song data that a file holds; a file without a tag tells nothing, and of one with an
unreadable tag nothing can be told. -/
def SongData.read? (file : List UInt8) : Option SongData :=
  match Song.readFrames file with
  | .absent => some .empty
  | .unreadable => none
  | .found frames => some (Song.record frames)

end Relabel
