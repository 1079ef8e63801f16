import TuneBank.Track

/-! What a track uses, counted over the rows that its order plays. Sets of bytes are kept as the
increasing list of their members, so the order of the frames cannot show in a summary. -/

namespace TuneBank

def bytesWhere (p : UInt8 → Bool) : List UInt8 :=
  ((List.range 256).map UInt8.ofNat).filter p

theorem mem_bytesWhere (p : UInt8 → Bool) (b : UInt8) : b ∈ bytesWhere p ↔ p b = true := by
  have every : b ∈ (List.range 256).map UInt8.ofNat :=
    List.mem_map.mpr ⟨b.toNat, List.mem_range.mpr b.toNat_lt, UInt8.ofNat_toNat⟩
  simp only [bytesWhere, List.mem_filter, every, true_and]

structure Summary where
  frames : Nat
  patternSlots : Nat
  macros : PerKind Nat
  instruments : Nat
  notes : PerChannel Nat
  hasHalt : Bool
  hasRelease : Bool
  effects : List UInt8
  instrumentsUsed : List UInt8

namespace Track

def playedSlots (t : Track) (c : Channel) : List UInt8 :=
  bytesWhere fun slot => t.order.any fun frame => frame.get c == slot

/-- Every cell that a channel plays, each slot once. -/
def playedCells (t : Track) (c : Channel) : List Cell :=
  (t.playedSlots c).flatMap (t.column c)

end Track

def Note.isSounding : Note → Bool
  | .tone _ _ => true
  | .noise _ => true
  | _ => false

namespace Summary

def of (t : Track) : Summary :=
  let cells := Channel.all.flatMap t.playedCells
  let codes := cells.flatMap fun cell => cell.effects.map Effect.code
  let numbers := cells.filterMap Cell.instrument
  { frames := t.order.length
    patternSlots := t.patterns.length
    macros := .ofFn fun kind => (t.macros.get kind).length
    instruments := t.instruments.length
    notes := .ofFn fun c => (t.playedCells c).countP (·.note.isSounding)
    hasHalt := cells.any (·.note == .halt)
    hasRelease := cells.any (·.note == .release)
    effects := bytesWhere codes.contains
    instrumentsUsed := bytesWhere numbers.contains }

def effectLetters (s : Summary) : List String :=
  s.effects.map fun code => String.singleton (Effect.letter ⟨code, 0⟩)

def lines (s : Summary) : List String :=
  let macros := MacroKind.all.map fun k => " " ++ k.name ++ " " ++ Text.decimal (s.macros.get k)
  let notes := Channel.all.map fun c => " " ++ c.name ++ " " ++ Text.decimal (s.notes.get c)
  let effects := s.effectLetters.map (· ++ "xx")
  [ "Frames:   " ++ Text.decimal s.frames ++ " (" ++ Text.decimal s.patternSlots
      ++ " pattern slots)",
    "Macros:  " ++ String.join macros,
    "Instruments: " ++ Text.decimal s.instruments ++ " defined, "
      ++ Text.decimal s.instrumentsUsed.length ++ " used",
    "Notes:   " ++ String.join notes,
    "Note types: Tone" ++ (if s.hasHalt then ", Halt" else "")
      ++ (if s.hasRelease then ", Release" else ""),
    "Effects:  " ++ (if effects.isEmpty then "(none)" else ", ".intercalate effects) ]

end Summary

end TuneBank
