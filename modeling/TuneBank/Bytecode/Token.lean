import TuneBank.Cell

/-! The byte-code of the playback driver. A byte below the note cut skips rows, a byte between the
cut and the volumes is a pitch, and the rest are commands, three of which take an operand.
Streams of sound effects use the same layout with duties in place of the commands. -/

namespace TuneBank.Bytecode

namespace Code

def skipMax : UInt8 := 0x7F

def halt : UInt8 := 0x80

def volume : UInt8 := 0xE0

def instrument : UInt8 := 0xF0

def loop : UInt8 := 0xF1

def patternBreak : UInt8 := 0xF2

def speed : UInt8 := 0xF3

def noteDelay : UInt8 := 0xF4

def finePitch : UInt8 := 0xF5

def portamento : UInt8 := 0xF6

def duty : UInt8 := 0xF0

end Code

def levels (n : Nat) (base : UInt8) (stem : String) : List (String × UInt8) :=
  (List.range n).map fun i =>
    (stem ++ String.ofList [Text.Base.digitChar i], base + UInt8.ofNat i)

/-- The named bytes of pattern streams, in the order in which they are declared. -/
def patternNames : List (String × UInt8) :=
  [("HALT", Code.halt), ("B_XX", Code.loop), ("D_00", Code.patternBreak), ("F_XX", Code.speed),
    ("G_XX", Code.noteDelay), ("P_XX", Code.finePitch), ("E_XX", Code.portamento),
    ("INST", Code.instrument)] ++ levels 16 Code.volume "VOL"

def sfxNames : List (String × UInt8) :=
  [("SHLT", Code.halt)] ++ levels 16 Code.volume "SVL" ++ levels 4 Code.duty "SDT"

def nameIn? (names : List (String × UInt8)) (byte : UInt8) : Option String :=
  (names.find? (·.2 = byte)).map (·.1)

inductive Token where
  | skip (rows : UInt8)
  | halt
  | pitch (byte : UInt8)
  | volume (level : UInt8)
  | instrument (number : UInt8)
  | loop (frame : UInt8)
  | patternBreak
  | speed (ticks : UInt8)
  deriving DecidableEq

def Token.bytes : Token → List UInt8
  | skip rows => [rows]
  | halt => [Code.halt]
  | pitch byte => [byte]
  | volume level => [Code.volume + level]
  | instrument number => [Code.instrument, number]
  | loop frame => [Code.loop, frame]
  | patternBreak => [Code.patternBreak]
  | speed ticks => [Code.speed, ticks]

inductive SfxToken where
  | skip (rows : UInt8)
  | halt
  | pitch (byte : UInt8)
  | volume (level : UInt8)
  | duty (cycle : UInt8)
  deriving DecidableEq

def SfxToken.byte : SfxToken → UInt8
  | skip rows => rows
  | halt => Code.halt
  | pitch byte => byte
  | volume level => Code.volume + level
  | duty cycle => Code.duty + cycle

/-- The pitch of a melodic note, before any limit. -/
def tonePitch (octave semitone : UInt8) : Nat :=
  Code.halt.toNat + 1 + semitone.toNat + 12 * octave.toNat

def noisePitch (period : UInt8) : Nat := Code.halt.toNat + 1 + period.toNat

end TuneBank.Bytecode
