import TuneBank.Diagnosed
import TuneBank.Export.ImportError

/-! Reading one track of an export. Macros and instruments belong to the whole file; orders,
patterns and rows count only in the section of the wanted track. A problem never stops the
import: it is reported, and the track holds everything that could be read. -/

namespace TuneBank.Export

structure Import where
  track : Track
  errors : List ImportError
  tracksSeen : Nat
  titled : Bool
  slot : UInt8

namespace MacroRecord

def kept (m : MacroRecord) : List Int8 := m.values.take Macro.maxLength

def holdsMarker (m : MacroRecord) : Bool := m.values.contains Macro.loopMarker

def loopPoint? (m : MacroRecord) : Option UInt8 :=
  if 0 ≤ m.loopPoint ∧ m.loopPoint < m.kept.length then some (UInt8.ofNat m.loopPoint.toNat)
  else none

/-- The macro that a record defines; a value that reads as the loop marker refuses it. -/
def accepted? (m : MacroRecord) : Option Macro :=
  if m.holdsMarker then none else some (Macro.ofAuthored m.kind m.values m.loopPoint?)

def errors (line : Nat) (m : MacroRecord) : List ImportError :=
  (if m.release ≠ -1 then [.macroRelease line m.kind m.index] else [])
  ++ (if m.mode ≠ 0 then [.macroMode line m.kind m.index] else [])
  ++ (if m.holdsMarker then [.macroMarker line m.kind m.index]
      else
        (if m.values.length > Macro.maxLength then
          [.macroLength line m.kind m.index m.values.length] else [])
        ++ (if 0 ≤ m.loopPoint ∧ m.loopPoint?.isNone then
          [.macroLoop line m.kind m.index m.loopPoint] else []))

end MacroRecord

namespace Import

def start : Import := ⟨.new "", [], 0, false, 0⟩

def report (s : Import) (es : List ImportError) : Import :=
  { s with errors := s.errors ++ es }

def readMacro (s : Import) (line : Nat) (m : MacroRecord) : Import :=
  let s := s.report (m.errors line)
  match m.accepted? with
  | some content => { s with track := s.track.setMacro m.kind m.index.toNat content }
  | none => s

def readTrackHeader (wanted : Nat) (s : Import) (line patternLength : Nat) (speed : UInt8)
    (tempo : Nat) : Import :=
  let s := { s with tracksSeen := s.tracksSeen + 1 }
  if s.tracksSeen = wanted then
    { s with
      track := { s.track with patternLength := patternLength, speed := speed, tempo := tempo }
      errors := s.errors ++
        (if tempo = Track.requiredTempo then [] else [.tempo line tempo]) }
  else s

/-- Put a row into the selected slot, which is made if need be. -/
def readRow (s : Import) (line row : Nat) (cells : PerChannel Cell)
    (unknownNotes : List (Channel × String)) : Import :=
  let s := s.report (unknownNotes.map fun (c, text) => .unknownNote line c text)
  let track := s.track.ensureSlot s.slot
  let rows := track.slotRows s.slot
  if row < rows then { s with track := track.modifySlot s.slot (·.setRow row cells) }
  else { s with track := track }.report [.rowOutOfRange line row rows]

def apply (wanted : Nat) (s : Import) (line : Nat) : Record → Import
  | .title text => { s with track := { s.track with title := text }, titled := true }
  | .macroDef m => s.readMacro line m
  | .instrument index i => { s with track := s.track.setInstrument index.toNat i }
  | .trackHeader patternLength speed tempo _ =>
    s.readTrackHeader wanted line patternLength speed tempo
  | .order frame slots => { s with track := s.track.setFrame frame.toNat slots }
  | .patternSelect slot => { s with slot := slot }
  | .row row cells unknownNotes => s.readRow line row cells unknownNotes

/-- Records of another track's section are passed over, readable or not. -/
def passesOver (wanted : Nat) (s : Import) (kind : RecordKind) : Bool :=
  kind.isSectioned && s.tracksSeen != wanted

def readLine (wanted : Nat) (s : Import) (line : Nat) (text : String) : Import :=
  match decode text with
  | .ignored => s
  | .malformed kind =>
    if s.passesOver wanted kind then s else s.report [.malformed line kind]
  | .record r => if s.passesOver wanted r.kind then s else s.apply wanted line r

def readLines (wanted : Nat) (s : Import) : Nat → List String → Import
  | _, [] => s
  | n, text :: rest => (s.readLine wanted n text).readLines wanted (n + 1) rest

def finish (wanted : Nat) (s : Import) : Diagnosed ImportError Track :=
  ⟨s.track,
    s.errors ++ (if s.titled then [] else [.missingTitle])
      ++ (if s.tracksSeen < wanted then [.trackNotFound wanted] else [])⟩

end Import

/-- Import a track of an export. Tracks are numbered from one; number zero is the part of the
file before any track header. -/
def load (text : String) (wanted : Nat) : Diagnosed ImportError Track :=
  (Import.start.readLines wanted 1 (Text.lines text)).finish wanted

end TuneBank.Export
