import TuneBank.Batch
import TuneBank.DriverTables
import TuneBank.Listing.Line

/-! The data of a run as an assembler listing: constants, then each table with its entries and
its pointers, then the two lookup tables of the driver. -/

namespace TuneBank.Listing

def streamWidth : Nat := 16

def tuningWidth : Nat := 12

/-- The kinds that an instrument stores; the driver has no hi-pitch. -/
def storedKinds : List MacroKind := [.volume, .arpeggio, .pitch, .duty]

def takesOperand (b : UInt8) : Bool :=
  b = Bytecode.Code.instrument || b = Bytecode.Code.loop || b = Bytecode.Code.speed

def namedOperand (names : List (String × UInt8)) (b : UInt8) : String :=
  (Bytecode.nameIn? names b).getD (hexOperand b)

/-- A pattern stream with its commands by name. An operand is always a number, even if it equals
a command. -/
def patternOperands : List UInt8 → List String
  | [] => []
  | b :: rest =>
    let here := namedOperand Bytecode.patternNames b
    match rest with
    | operand :: rest' =>
      if takesOperand b then here :: hexOperand operand :: patternOperands rest'
      else here :: patternOperands (operand :: rest')
    | [] => [here]

def sfxOperands (bytes : List UInt8) : List String :=
  bytes.map (namedOperand Bytecode.sfxNames)

def macroOperands (m : Macro) : List String :=
  m.ticks.map (fun t => Text.signed t.toInt) ++ ["LOOP", Text.decimal m.loopPoint.toNat]

def constants (set : PackedSet) : List Line :=
  [ .constant "MUSIC_COUNT" (Text.decimal set.songs.length),
    .constant "SFX_COUNT" (Text.decimal set.pool.sfx.length),
    .constant "MACRO_COUNT" (Text.decimal set.pool.macros.length),
    .constant "INSTRUMENT_COUNT" (Text.decimal set.pool.instruments.length),
    .constant "PATTERN_COUNT" (Text.decimal set.pool.patterns.length),
    .blank,
    .constant "LOOP" (Text.signed Macro.loopMarker.toInt) ]
  ++ (Bytecode.patternNames ++ Bytecode.sfxNames).map
    fun (name, byte) => .constant name (hexOperand byte)

def macroLines (i : Nat) (e : Entry Macro MacroOrigin) : List Line :=
  .label (entryLabel "data_macro" i) (some e.origin.label) :: oneLine (macroOperands e.content)

def instrumentLine (i : Nat) (e : Entry (PerKind UInt8) InstrumentOrigin) : Line :=
  .data (storedKinds.map fun kind => hexOperand (e.content.get kind))
    (some (Text.hex 2 i ++ " " ++ e.origin.title ++ ": " ++ e.origin.name))

def orderLines (i : Nat) (e : SongEntry) : List Line :=
  .label (entryLabel "data_order" i) (some e.ident) ::
    (e.song.order.mapIdx fun j frame =>
      Line.data (frame.toList.map hexOperand) (some (Text.hex 2 j))) ++ [.blank]

def patternLines (i : Nat) (e : Entry (List UInt8) PatternOrigin) : List Line :=
  .label (entryLabel "data_pattern" i)
      (some (e.origin.title ++ " " ++ e.origin.channel.name ++ " "
        ++ Text.hexByte e.origin.slot)) ::
    wrapped streamWidth (patternOperands e.content) ++ [.blank]

def sfxLines (i : Nat) (e : SfxEntry × String) : List Line :=
  .label (entryLabel "data_sfx" i) (some e.2) ::
    wrapped streamWidth (sfxOperands e.1.sfx.bytes) ++ [.blank]

/-- The lookup tables. Volumes go up to fifteen and are one digit each. -/
def driverTableLines : List Line :=
  .label "data_music_tuning_low" none ::
    wrapped tuningWidth (DriverTables.tuning.map fun p => "$" ++ Text.hex 2 (p % 256))
  ++ [.blank, .label "data_music_tuning_high" none]
  ++ wrapped tuningWidth (DriverTables.tuning.map fun p => "$" ++ Text.hex 2 (p / 256))
  ++ [.blank, .label "data_music_multiply" none]
  ++ wrapped 16 (DriverTables.scaling.map fun v => "$" ++ Text.hex 1 v.toNat)
  ++ [.blank]

/-- The pattern length of a song in one byte, where 0 stands for 256. -/
def lengthOperand (s : PackedSong) : String := Text.decimal (s.patternLength % 256)

def music (set : PackedSet) (memory : String) : List Line :=
  [banner, .blank] ++ constants set
  ++ [.blank, .directive (".segment \"" ++ memory ++ "\""), .blank]
  ++ (set.pool.macros.mapIdx macroLines).flatten ++ [.blank]
  ++ pointerTables "data_music_macro" "data_macro" set.pool.macros.length
  ++ [.label "data_music_instrument" none] ++ set.pool.instruments.mapIdx instrumentLine
  ++ [.blank, .label "data_music_speed" none]
  ++ oneLine (set.songs.map fun s => Text.decimal s.song.speed.toNat)
  ++ [.blank, .label "data_music_pattern_length" none]
  ++ oneLine (set.songs.map fun s => lengthOperand s.song)
  ++ [.blank] ++ (set.songs.mapIdx orderLines).flatten
  ++ pointerTables "data_music_order" "data_order" set.songs.length
  ++ (set.pool.patterns.mapIdx patternLines).flatten
  ++ pointerTables "data_music_pattern" "data_pattern" set.pool.patterns.length
  ++ ((set.pool.sfx.zip set.sfxIdents).mapIdx sfxLines).flatten
  ++ pointerTables "data_sfx" "data_sfx" set.pool.sfx.length
  ++ driverTableLines ++ [ending]

end TuneBank.Listing
