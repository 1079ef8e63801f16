import TuneBank.Bytecode.SkipWriter
import TuneBank.Diagnosed
import TuneBank.PackError
import TuneBank.Track

/-! Patterns of one channel as byte-code. The tokens of a row are its effects, the volume if it
differs from the last one written, the instrument likewise, and the note. Volume and instrument
start unset in every pattern. -/

namespace TuneBank.Bytecode

structure Coded (τ : Type) where
  tokens : List τ
  errors : List PackError

namespace Coded
variable {τ : Type}

def nothing : Coded τ := ⟨[], []⟩

def ofToken (t : τ) : Coded τ := ⟨[t], []⟩

def refused (e : PackError) : Coded τ := ⟨[], [e]⟩

instance : Append (Coded τ) := ⟨fun a b => ⟨a.tokens ++ b.tokens, a.errors ++ b.errors⟩⟩

@[simp] theorem tokens_append (a b : Coded τ) : (a ++ b).tokens = a.tokens ++ b.tokens := rfl

@[simp] theorem errors_append (a b : Coded τ) : (a ++ b).errors = a.errors ++ b.errors := rfl

end Coded

inductive Playable where
  | silent
  | halt
  | pitch (byte : UInt8)
  | refused (e : PackError)

/-- Pitches from the first volume on cannot be played, nor can releases. -/
def playable (place : Location) (note : Note) : Playable :=
  let limited (pitch : Nat) : Playable :=
    if pitch ≥ Code.volume.toNat then .refused (.noteOutOfRange place note)
    else .pitch (UInt8.ofNat pitch)
  match note with
  | .blank => .silent
  | .halt => .halt
  | .release => .refused (.release place)
  | .tone octave semitone => limited (tonePitch octave semitone)
  | .noise period => limited (noisePitch period)

def codeNote (place : Location) (note : Note) : Coded Token :=
  match playable place note with
  | .silent => .nothing
  | .halt => .ofToken .halt
  | .pitch byte => .ofToken (.pitch byte)
  | .refused e => .refused e

def loopLetter : UInt8 := 0x42

def breakLetter : UInt8 := 0x44

def speedLetter : UInt8 := 0x46

/-- An effect, where `loops` counts the loop markers of the pattern before it. -/
def codeEffect (place : Location) (loops : Nat) (e : Effect) : Coded Token :=
  if e.code = loopLetter then
    ⟨[.loop e.param], if loops = 0 then [] else [.duplicateLoop place]⟩
  else if e.code = breakLetter then
    ⟨[.patternBreak], if e.param = 0 then [] else [.nonZeroParam place e]⟩
  else if e.code = speedLetter then .ofToken (.speed e.param)
  else .refused (.unknownEffect place e)

def countLoops (es : List Effect) : Nat := es.countP (·.code = loopLetter)

def codeEffects (place : Location) (loops : Nat) : List Effect → Coded Token
  | [] => .nothing
  | e :: es => codeEffect place loops e ++ codeEffects place (loops + countLoops [e]) es

structure Running where
  volume : Option UInt8
  instrument : Option UInt8
  loops : Nat

namespace Running

def start : Running := ⟨none, none, 0⟩

def codeVolume (s : Running) (volume : Option UInt8) : Coded Token :=
  match volume with
  | none => .nothing
  | some level => if s.volume = some level then .nothing else .ofToken (.volume level)

def codeInstrument (s : Running) (map : List UInt8) (place : Location)
    (instrument : Option UInt8) : Coded Token :=
  match instrument with
  | none => .nothing
  | some number =>
    if s.instrument = some number then .nothing
    else match map[number.toNat]? with
      | some byte => .ofToken (.instrument byte)
      | none => .refused (.unknownInstrument place number)

def codeCell (s : Running) (map : List UInt8) (place : Location) (cell : Cell) : Coded Token :=
  codeEffects place s.loops cell.effects ++ s.codeVolume cell.volume
    ++ s.codeInstrument map place cell.instrument ++ codeNote place cell.note

/-- An instrument that the map does not know leaves the last one in place. -/
def after (s : Running) (map : List UInt8) (cell : Cell) : Running :=
  { volume := cell.volume.or s.volume
    instrument := (cell.instrument.filter (·.toNat < map.length)).or s.instrument
    loops := s.loops + countLoops cell.effects }

end Running

def endsRow (place : Location) (note : Note) : Bool := !(codeNote place note).tokens.isEmpty

def writeCells (map : List UInt8) (channel : Channel) (slot : UInt8) :
    Nat → Running → SkipWriter Token → List Cell → SkipWriter Token × List PackError
  | _, _, w, [] => (w, [])
  | row, s, w, cell :: cells =>
    let place : Location := ⟨channel, slot, row⟩
    let coded := s.codeCell map place cell
    let (w, cut) :=
      if coded.tokens.isEmpty then (w.silent 1, none)
      else w.write coded.tokens (endsRow place cell.note)
    let (w, errors) := writeCells map channel slot (row + 1) (s.after map cell) w cells
    (w, coded.errors ++ (cut.map (PackError.tooManySkips place)).toList ++ errors)

structure PatternStream where
  tokens : List Token
  loops : Nat

def PatternStream.bytes (s : PatternStream) : List UInt8 := s.tokens.flatMap Token.bytes

/-- Encode the rows that a slot plays on a channel. `map` gives the byte of each of the author's
instruments. -/
def encode (track : Track) (map : List UInt8) (channel : Channel) (slot : UInt8) :
    Diagnosed PackError PatternStream :=
  let cells := track.column channel slot
  let (w, errors) := writeCells map channel slot 0 .start .new cells
  let (tokens, cut) := w.finish
  ⟨⟨tokens, countLoops (cells.flatMap Cell.effects)⟩,
    errors ++ (cut.map (PackError.tooManySkipsAtEnd channel slot)).toList⟩

end TuneBank.Bytecode
