import TuneBank.Bytecode.PatternStream

/-! Sound effects as byte-code. An effect is slot 0 of pulse 1 if that has a note on its first
row, and slot 0 of noise otherwise, up to the first note cut. The tokens of the row with the cut
are kept, a skip that is pending there is not, and every stream ends in a cut of its own. -/

namespace TuneBank.Bytecode

inductive SfxMode where
  | square
  | noise
  deriving DecidableEq

namespace SfxMode

def all : List SfxMode := [square, noise]

def value : SfxMode → Nat
  | square => 0
  | noise => 1

def name : SfxMode → String
  | square => "Square"
  | noise => "Noise"

def channel : SfxMode → Channel
  | square => .pulse1
  | noise => .noise

def dutyMask : SfxMode → UInt8
  | square => 0x03
  | noise => 0x01

end SfxMode

structure SfxStream where
  bytes : List UInt8
  mode : SfxMode
  deriving DecidableEq

def SfxStream.silence : SfxStream := ⟨[Code.halt], .square⟩

def dutyLetter : UInt8 := 0x56

def codeDuty (mode : SfxMode) (place : Location) (e : Effect) : Coded SfxToken :=
  if e.code = dutyLetter then .ofToken (.duty (e.param &&& mode.dutyMask))
  else .refused (.unknownEffect place e)

def codeDuties (mode : SfxMode) (place : Location) : List Effect → Coded SfxToken
  | [] => .nothing
  | e :: es => codeDuty mode place e ++ codeDuties mode place es

def codeLevel (last volume : Option UInt8) : Coded SfxToken :=
  match volume with
  | none => .nothing
  | some level => if last = some level then .nothing else .ofToken (.volume level)

/-- A cut leaves no token: the end of the stream stands for it. -/
def codePitch (place : Location) (note : Note) : Coded SfxToken :=
  match playable place note with
  | .pitch byte => .ofToken (.pitch byte)
  | .refused e => .refused e
  | .silent | .halt => .nothing

def codeSfxCell (mode : SfxMode) (last : Option UInt8) (place : Location) (cell : Cell) :
    Coded SfxToken :=
  codeDuties mode place cell.effects ++ codeLevel last cell.volume ++ codePitch place cell.note

def endsSfxRow (place : Location) (note : Note) : Bool :=
  note = .halt || !(codePitch place note).tokens.isEmpty

def throughHalt : List Cell → List Cell
  | [] => []
  | cell :: cells => if cell.note = .halt then [cell] else cell :: throughHalt cells

def writeSfxCells (mode : SfxMode) :
    Nat → Option UInt8 → SkipWriter SfxToken → List Cell → SkipWriter SfxToken × List PackError
  | _, _, w, [] => (w, [])
  | row, last, w, cell :: cells =>
    let place : Location := ⟨mode.channel, 0, row⟩
    let coded := codeSfxCell mode last place cell
    let (w, cut) :=
      if coded.tokens.isEmpty then (w.silent 1, none)
      else w.write coded.tokens (endsSfxRow place cell.note)
    let (w, errors) := writeSfxCells mode (row + 1) (cell.volume.or last) w cells
    (w, coded.errors ++ (cut.map (PackError.tooManySkips place)).toList ++ errors)

/-- The first mode whose channel has a note on row 0. -/
def sfxMode? (track : Track) : Option SfxMode :=
  SfxMode.all.find? fun mode => (track.cell mode.channel 0 0).note.isPresent

def encodeSfx (track : Track) : Diagnosed PackError SfxStream :=
  let pace : List PackError := if track.speed = 1 then [] else [.sfxSpeed track.speed]
  match sfxMode? track with
  | none => ⟨.silence, pace ++ [.sfxNoNote]⟩
  | some mode =>
    let cells := track.column mode.channel 0
    let (w, errors) := writeSfxCells mode 0 none .new (throughHalt cells)
    let unended : List PackError := if cells.any (·.note = .halt) then [] else [.sfxNoHalt]
    ⟨⟨(w.out ++ [SfxToken.halt]).map SfxToken.byte, mode⟩, pace ++ errors ++ unended⟩

end TuneBank.Bytecode
