import TuneBank.Cell

/-! What can be wrong with a track that is packed. None of it stops the packing. -/

namespace TuneBank

structure Location where
  channel : Channel
  slot : UInt8
  row : Nat
  deriving DecidableEq

def Location.label (l : Location) : String :=
  "channel " ++ l.channel.label ++ ", pattern " ++ Text.hexByte l.slot ++ ", row "
    ++ Text.hex 2 l.row

inductive PoolTable where
  | macros
  | instruments
  | patterns
  deriving DecidableEq

def PoolTable.name : PoolTable → String
  | macros => "macro"
  | instruments => "instrument"
  | patterns => "pattern"

inductive PackError where
  | hiPitch (instrument : Nat)
  | duplicateLoop (place : Location)
  | noLoopPoint
  | nonZeroParam (place : Location) (effect : Effect)
  | unknownEffect (place : Location) (effect : Effect)
  | release (place : Location)
  | noteOutOfRange (place : Location) (note : Note)
  | unknownInstrument (place : Location) (instrument : UInt8)
  | tooManySkips (place : Location) (rows : Nat)
  | tooManySkipsAtEnd (channel : Channel) (slot : UInt8) (rows : Nat)
  | poolOverflow (table : PoolTable) (index : Nat)
  | sfxSpeed (speed : UInt8)
  | sfxNoNote
  | sfxNoHalt
  deriving DecidableEq

namespace PackError

def message : PackError → String
  | hiPitch instrument => "hi-pitch macro unsupported in instrument " ++ Text.hex 2 instrument
  | duplicateLoop place => "multiple Bxx effects in " ++ place.label
  | noLoopPoint => "no loop point found; use a Bxx effect"
  | nonZeroParam place effect => effect.label ++ " parameter must be 00 in " ++ place.label
  | unknownEffect place effect => "unsupported effect " ++ effect.label ++ " in " ++ place.label
  | release place => "note release (===) unsupported in " ++ place.label
  | noteOutOfRange place note => "note " ++ note.label ++ " out of range in " ++ place.label
  | unknownInstrument place instrument =>
    "instrument " ++ Text.hexByte instrument ++ " not defined in " ++ place.label
  | tooManySkips place rows =>
    "too many skipped rows (" ++ Text.decimal rows ++ ") in " ++ place.label
  | tooManySkipsAtEnd channel slot rows =>
    "too many skipped rows (" ++ Text.decimal rows ++ ") at end of channel " ++ channel.label
      ++ ", pattern " ++ Text.hexByte slot
  | poolOverflow table index =>
    table.name ++ " index " ++ Text.decimal index ++ " does not fit in a byte"
  | sfxSpeed speed =>
    "speed is " ++ Text.decimal speed.toNat ++ "; sound effects assume speed 1"
  | sfxNoNote => "note not found on row 0 of pattern 0 in pulse 1 or noise"
  | sfxNoHalt => "no note halt found"

end PackError

end TuneBank
