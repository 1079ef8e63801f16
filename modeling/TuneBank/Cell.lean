import TuneBank.Channel

/-! What one channel holds in one row of a pattern: a note, an instrument number, a volume and
effects. Notes and effects are written as an export writes them. -/

namespace TuneBank

inductive Note where
  | blank
  | halt
  | release
  | tone (octave semitone : UInt8)
  | noise (period : UInt8)
  deriving DecidableEq

namespace Note

/-- Every note but the blank one, cuts and releases included. -/
def isPresent : Note → Bool
  | blank => false
  | _ => true

def semitoneNames : List String :=
  ["C-", "C#", "D-", "D#", "E-", "F-", "F#", "G-", "G#", "A-", "A#", "B-"]

def label : Note → String
  | blank => "..."
  | halt => "---"
  | release => "==="
  | tone octave semitone =>
    (semitoneNames[semitone.toNat]?).getD "??" ++ Text.decimal octave.toNat
  | noise period => Text.hex 1 period.toNat ++ "-#"

end Note

structure Effect where
  code : UInt8
  param : UInt8
  deriving DecidableEq

namespace Effect

def letter (e : Effect) : Char := Char.ofNat e.code.toNat

def label (e : Effect) : String := String.singleton e.letter ++ Text.hexByte e.param

end Effect

structure Cell where
  note : Note
  instrument : Option UInt8
  volume : Option UInt8
  effects : List Effect
  deriving DecidableEq

namespace Cell

def maxEffects : Nat := 4

def empty : Cell := ⟨.blank, none, none, []⟩

def isEmpty (c : Cell) : Bool := c = empty

end Cell

end TuneBank
