import TuneBank.Pool.Numbering

/-! Whole songs. Packing a song puts its macros, instruments and patterns into the pool and
leaves the order and a few numbers as the song itself. -/

namespace TuneBank

structure PackedSong where
  title : String
  speed : UInt8
  patternLength : Nat
  order : List PackedFrame
  newPatterns : List Nat
  deriving DecidableEq

structure PatternDraft where
  pool : Pool
  map : PatternMap
  newPatterns : List Nat
  errors : List PackError
  loops : Nat

namespace PatternDraft

/-- Encode a slot and intern its stream. -/
def addSlot (track : Track) (instruments : List UInt8) (v : Voice) (d : PatternDraft)
    (slot : UInt8) : PatternDraft :=
  let stream := Bytecode.encode track instruments v.channel slot
  let (pool, interned) :=
    d.pool.internPattern stream.value.bytes ⟨track.title, v.channel, slot⟩
  { pool := pool
    map := d.map.set v (d.map.get v ++ [interned.index])
    newPatterns := d.newPatterns ++ (if interned.isNew then [interned.index] else [])
    errors := d.errors ++ stream.errors
    loops := d.loops + stream.value.loops }

def addVoice (track : Track) (instruments : List UInt8) (d : PatternDraft) (v : Voice) :
    PatternDraft :=
  (track.slots v.channel).foldl (addSlot track instruments v) d

end PatternDraft

namespace Pool

def packPatterns (p : Pool) (track : Track) (instruments : List UInt8) : PatternDraft :=
  Voice.all.foldl (PatternDraft.addVoice track instruments) ⟨p, ⟨[], [], [], []⟩, [], [], 0⟩

def packSong (p : Pool) (track : Track) : Pool × Diagnosed PackError PackedSong :=
  let (p, macros) := p.remapMacros track
  let (p, instruments, instrumentErrors) := p.remapInstruments track macros
  let patterns := p.packPatterns track instruments
  let order := remapOrder track.order patterns.map
  let unlooped : List PackError := if patterns.loops = 0 then [.noLoopPoint] else []
  (patterns.pool,
    { value :=
        { title := track.title
          speed := track.speed
          patternLength := track.patternLength
          order := order.value
          newPatterns := patterns.newPatterns }
      errors := instrumentErrors ++ patterns.errors ++ order.errors ++ unlooped })

end Pool

end TuneBank
