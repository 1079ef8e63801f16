import TuneBank.Batch
import TuneBank.Listing.Line

/-! The symbols of a run for the program that plays it: counts, the songs and the sound effects
by name, and the mode of each sound effect. -/

namespace TuneBank.Listing

def enumeration (stem : String) (names : List String) : List Line :=
  .directive ".enum" ::
    (names.mapIdx fun i name => Line.constant (stem ++ name) (Text.decimal i))
  ++ [.directive ".endenum"]

def symbols (set : PackedSet) : List Line :=
  [banner, .blank,
    .constant "MUSIC_COUNT" (Text.decimal set.songs.length),
    .constant "SFX_COUNT" (Text.decimal set.pool.sfx.length), .blank]
  ++ enumeration "MUSIC_" (set.songs.map SongEntry.ident) ++ [.blank]
  ++ enumeration "SOUND_" set.sfxIdents ++ [.blank]
  ++ (set.pool.sfx.mapIdx fun i e =>
    Line.constant ("SOUND_MODE__" ++ Text.decimal i) (Text.decimal e.sfx.mode.value))
  ++ [.blank, ending]

end TuneBank.Listing
