import Relabel.Text.Blank

/-!
# Song data

What the tag of an audio file tells.
-/

namespace Relabel

inductive SongTag
  | title
  | artist
  | album
  | albumArtist
  | genre
  | year
  | track
  | totalTracks
  | disc
  | totalDiscs
deriving DecidableEq, Repr

namespace SongTag

def all : List SongTag :=
  [title, artist, album, albumArtist, genre, year, track, totalTracks, disc, totalDiscs]

def label : SongTag → Text
  | title => "title".toList
  | artist => "artist".toList
  | album => "album".toList
  | albumArtist => "album_artist".toList
  | genre => "genre".toList
  | year => "year".toList
  | track => "track".toList
  | totalTracks => "total_tracks".toList
  | disc => "disc".toList
  | totalDiscs => "total_discs".toList

def ofLabel? (label : Text) : Option SongTag := all.find? (·.label = label)

theorem ofLabel?_label (t : SongTag) : ofLabel? t.label = some t := by cases t <;> rfl

end SongTag

structure SongData where
  title : Option Text
  artist : Option Text
  album : Option Text
  albumArtist : Option Text
  genre : Option Text
  year : Option Text
  track : Option Text
  totalTracks : Option Text
  disc : Option Text
  totalDiscs : Option Text
deriving DecidableEq, Repr

namespace SongData

def empty : SongData := ⟨none, none, none, none, none, none, none, none, none, none⟩

def entry (data : SongData) : SongTag → Option Text
  | .title => data.title
  | .artist => data.artist
  | .album => data.album
  | .albumArtist => data.albumArtist
  | .genre => data.genre
  | .year => data.year
  | .track => data.track
  | .totalTracks => data.totalTracks
  | .disc => data.disc
  | .totalDiscs => data.totalDiscs

/-- The entry without the white space around it; a blank entry has no value. -/
def value (data : SongData) (tag : SongTag) : Option Text :=
  ((data.entry tag).map Text.trim).filter (· ≠ [])

end SongData

end Relabel
