import TuneBank.Bytecode.SoundEffect
import TuneBank.Pool.Table

/-! The tables that all songs of a run share. Macros are kept by content, instruments by the
macros that they name, patterns by their bytes. Sound effects are never shared: each has a
number of its own. -/

namespace TuneBank

inductive MacroOrigin where
  | builtin (name : String)
  | track (title : String) (kind : MacroKind) (index : Nat)
  deriving DecidableEq

namespace MacroOrigin

def kind? : MacroOrigin → Option MacroKind
  | builtin _ => none
  | track _ kind _ => some kind

def label : MacroOrigin → String
  | builtin name => name ++ " default"
  | track title kind index => title ++ " " ++ kind.name ++ " " ++ Text.decimal index

end MacroOrigin

structure InstrumentOrigin where
  title : String
  name : String
  deriving DecidableEq

structure PatternOrigin where
  title : String
  channel : Channel
  slot : UInt8
  deriving DecidableEq

structure SfxEntry where
  title : String
  sfx : Bytecode.SfxStream
  deriving DecidableEq

structure Pool where
  macros : List (Entry Macro MacroOrigin)
  instruments : List (Entry (PerKind UInt8) InstrumentOrigin)
  patterns : List (Entry (List UInt8) PatternOrigin)
  sfx : List SfxEntry
  deriving DecidableEq

namespace Pool

/-- The two macros and the sound effect that every run starts with. -/
def seeded : Pool where
  macros := [⟨.noop, .builtin "no-op"⟩, ⟨.fullVolume, .builtin "volume"⟩]
  instruments := []
  patterns := []
  sfx := [⟨"NONE", .silence⟩]

def internMacro (p : Pool) (content : Macro) (origin : MacroOrigin) : Pool × Interned :=
  let (macros, interned) := intern p.macros content origin
  ({ p with macros := macros }, interned)

def internInstrument (p : Pool) (macros : PerKind UInt8) (origin : InstrumentOrigin) :
    Pool × Interned :=
  let (instruments, interned) := intern p.instruments macros origin
  ({ p with instruments := instruments }, interned)

def internPattern (p : Pool) (bytes : List UInt8) (origin : PatternOrigin) : Pool × Interned :=
  let (patterns, interned) := intern p.patterns bytes origin
  ({ p with patterns := patterns }, interned)

def pushSfx (p : Pool) (title : String) (sfx : Bytecode.SfxStream) : Pool × Nat :=
  ({ p with sfx := p.sfx ++ [⟨title, sfx⟩] }, p.sfx.length)

end Pool

end TuneBank
