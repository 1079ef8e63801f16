import TuneBank.Pool.Basic

/-! From the numbers of one author to those of the pool: macros, instruments and the order. The
driver stores every such number in a byte; one that does not fit is reported and cut. -/

namespace TuneBank

abbrev MacroMap := PerKind (List Nat)

abbrev PatternMap := PerVoice (List Nat)

def PatternMap.get? (m : PatternMap) (c : Channel) (slot : UInt8) : Option Nat :=
  c.voice?.bind fun v => (m.get v)[slot.toNat]?

/-- The macro of an instrument that names none of this kind. -/
def defaultMacro : MacroKind → Nat
  | .volume => 1
  | _ => 0

/-- A number as the driver stores it. -/
def indexByte (table : PoolTable) (index : Nat) : Diagnosed PackError UInt8 :=
  ⟨UInt8.ofNat index, if index < 256 then [] else [.poolOverflow table index]⟩

namespace Pool

def internMacros (title : String) (kind : MacroKind) :
    Pool → Nat → List Macro → Pool × List Nat
  | p, _, [] => (p, [])
  | p, i, m :: ms =>
    let (p, interned) := p.internMacro m (.track title kind i)
    let (p, rest) := internMacros title kind p (i + 1) ms
    (p, interned.index :: rest)

def remapMacros (p : Pool) (track : Track) : Pool × MacroMap :=
  MacroKind.all.foldl
    (fun (p, map) kind =>
      let (p, indices) := internMacros track.title kind p 0 (track.macros.get kind)
      (p, map.set kind indices))
    (p, ⟨[], [], [], [], []⟩)

/-- The pool's macro for a slot of an instrument; one that names no macro of the track gets the
default. -/
def resolve (map : MacroMap) (i : Instrument) (kind : MacroKind) : Nat :=
  ((i.macros.get kind).bind fun index => (map.get kind)[index.toNat]?).getD (defaultMacro kind)

/-- What is wrong with the macros of an instrument. Hi-pitch macros are kept, but the driver
does not play them. -/
def slotErrors (map : MacroMap) (i : Instrument) (number : Nat) (kind : MacroKind) :
    List PackError :=
  (if kind = .hiPitch ∧ resolve map i kind ≠ defaultMacro kind then [.hiPitch number] else [])
    ++ (indexByte .macros (resolve map i kind)).errors

def internInstruments (title : String) (map : MacroMap) :
    Pool → Nat → List Instrument → Pool × List UInt8 × List PackError
  | p, _, [] => (p, [], [])
  | p, number, i :: is =>
    let macros := PerKind.ofFn fun kind => (indexByte .macros (resolve map i kind)).value
    let (p, interned) := p.internInstrument macros ⟨title, i.name⟩
    let byte := indexByte .instruments interned.index
    let (p, bytes, errors) := internInstruments title map p (number + 1) is
    (p, byte.value :: bytes,
      MacroKind.all.flatMap (slotErrors map i number) ++ byte.errors ++ errors)

def remapInstruments (p : Pool) (track : Track) (map : MacroMap) :
    Pool × List UInt8 × List PackError :=
  internInstruments track.title map p 0 track.instruments

end Pool

abbrev PackedFrame := PerVoice UInt8

/-- The pool's number of the slot that a frame names; a slot that was not packed counts as
pattern 0. -/
def frameIndex (map : PatternMap) (frame : Frame) (v : Voice) : Nat :=
  (map.get v)[(frame.get v.channel).toNat]?.getD 0

def packFrame (map : PatternMap) (frame : Frame) : Diagnosed PackError PackedFrame :=
  ⟨.ofFn fun v => (indexByte .patterns (frameIndex map frame v)).value,
    Voice.all.flatMap fun v => (indexByte .patterns (frameIndex map frame v)).errors⟩

def remapOrder (order : List Frame) (map : PatternMap) :
    Diagnosed PackError (List PackedFrame) :=
  let frames := order.map (packFrame map)
  ⟨frames.map Diagnosed.value, frames.flatMap Diagnosed.errors⟩

end TuneBank
