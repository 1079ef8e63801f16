import TuneBank.Export.Import
import TuneBank.Song
import TuneBank.Summary

/-! What one export holds and how it packs on its own, as text. -/

namespace TuneBank.Inspection

def bytesText (bytes : List UInt8) : String := " ".intercalate (bytes.map Text.hexByte)

def trackLines (t : Track) : List String :=
  [ "Title:    " ++ t.title,
    "Speed:    " ++ Text.decimal t.speed.toNat ++ ", Tempo: " ++ Text.decimal t.tempo
      ++ ", Rows: " ++ Text.decimal t.patternLength ]
  ++ (Summary.of t).lines ++ [""]

def sfxLines (s : Bytecode.SfxStream) : List String :=
  ["Mode:     " ++ s.mode.name, "Bytes:    " ++ bytesText s.bytes]

def frameLine (i : Nat) (frame : PackedFrame) : String :=
  "Order " ++ Text.hex 2 i ++ ": " ++ bytesText frame.toList

def patternLine (i : Nat) (e : Entry (List UInt8) PatternOrigin) : String :=
  "Pattern " ++ Text.hex 2 i ++ " (" ++ e.origin.channel.name ++ " " ++ Text.hexByte e.origin.slot
    ++ "): " ++ bytesText e.content

def songLines (p : Pool) (s : PackedSong) : List String :=
  s.order.mapIdx frameLine ++ s.newPatterns.filterMap fun i => (p.patterns[i]?).map (patternLine i)

def errorLines (errors : List String) : List String :=
  if errors.isEmpty then [] else ["", "Errors:"] ++ errors.map ("  " ++ ·)

def lines (loaded : Diagnosed Export.ImportError Track) (asSfx : Bool) : List String :=
  let (packed, errors) :=
    if asSfx then
      let packed := Bytecode.encodeSfx loaded.value
      (sfxLines packed.value, packed.errors)
    else
      let (pool, packed) := Pool.seeded.packSong loaded.value
      (songLines pool packed.value, packed.errors)
  trackLines loaded.value ++ packed
    ++ errorLines (loaded.errors.map Export.ImportError.message ++ errors.map PackError.message)

end TuneBank.Inspection
