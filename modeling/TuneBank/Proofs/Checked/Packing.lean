import TuneBank.Batch
import TuneBank.Proofs.Checked.Import
import TuneBank.Proofs.Checked.SoundEffect

/-! Packing with checked steps. Tuples are arrays of fixed size whose places are the numbers of
their kinds and channels; the fourth voice is the last with a place of its own. -/

namespace TuneBank.Checked

/-! Arrays of fixed size -/

def setEntry {α β : Type} (ofList? : List α → Option β) (entries : List α) (i : Nat) (a : α) :
    Checked β := do
  let entries ← replace entries i a
  (ofList? entries).elim (.error .bounds) .ok

theorem setEntry_kind {α : Type} (t : PerKind α) (kind : MacroKind) (a : α) :
    setEntry PerKind.ofList? t.toList kind.index a = .ok (t.set kind a) := by
  cases kind <;> rfl

theorem setEntry_channel {α : Type} (t : PerChannel α) (c : Channel) (a : α) :
    setEntry PerChannel.ofList? t.toList c.index a = .ok (t.set c a) := by
  cases c <;> rfl

theorem setEntry_voice {α : Type} (t : PerVoice α) (v : Voice) (a : α) :
    setEntry PerVoice.ofList? t.toList v.channel.index a = .ok (t.set v a) := by
  cases v <;> rfl

theorem index_channel {α : Type} (t : PerChannel α) (c : Channel) :
    index t.toList c.index = .ok (t.get c) := by
  cases c <;> rfl

theorem index_voice {α : Type} (t : PerVoice α) (v : Voice) :
    index t.toList v.channel.index = .ok (t.get v) := by
  cases v <;> rfl

/-! Tables -/

/-- Interning, where the index of a new entry is that of the last one. -/
def intern {κ ω : Type} [DecidableEq κ] (table : List (Entry κ ω)) (content : κ) (origin : ω) :
    Checked (List (Entry κ ω) × Interned) :=
  match table.findIdx? (·.content = content) with
  | some i => .ok (table, ⟨i, false⟩)
  | none => do
    let table := table ++ [⟨content, origin⟩]
    let last ← subtract table.length 1
    return (table, ⟨last, true⟩)

theorem intern_value {κ ω : Type} [DecidableEq κ] (table : List (Entry κ ω)) (content : κ)
    (origin : ω) : intern table content origin = .ok (TuneBank.intern table content origin) := by
  rw [intern, TuneBank.intern]
  cases table.findIdx? (·.content = content) with
  | some i => rfl
  | none =>
    have one : 1 ≤ table.length + 1 := Nat.le_add_left _ _
    simp [subtract_value one]

def internMacros (title : String) (kind : MacroKind) :
    Pool → Nat → List Macro → Checked (Pool × List Nat)
  | p, _, [] => .ok (p, [])
  | p, i, m :: ms => do
    let (macros, interned) ← intern p.macros m (.track title kind i)
    let (p, rest) ← internMacros title kind { p with macros := macros } (i + 1) ms
    return (p, interned.index :: rest)

theorem internMacros_value (title : String) (kind : MacroKind) (p : Pool) (i : Nat)
    (ms : List Macro) :
    internMacros title kind p i ms = .ok (Pool.internMacros title kind p i ms) := by
  induction ms generalizing p i with
  | nil => rfl
  | cons m ms ih =>
    simp only [internMacros, intern_value, ok_bind, ih]
    rfl

def remapMacros (p : Pool) (track : Track) : Checked (Pool × MacroMap) :=
  MacroKind.all.foldlM
    (fun (p, map) kind => do
      let macros ← index track.macros.toList kind.index
      let (p, indices) ← internMacros track.title kind p 0 macros
      let map ← setEntry PerKind.ofList? (PerKind.toList map) kind.index indices
      return (p, map))
    (p, ⟨[], [], [], [], []⟩)

theorem remapMacros_value (p : Pool) (track : Track) :
    remapMacros p track = .ok (p.remapMacros track) := by
  refine foldlM_value (fun (p, map) kind => ?_) _
  simp only [index_kind, internMacros_value, ok_bind, setEntry_kind, pure_eq_ok]

def resolve (map : MacroMap) (i : Instrument) (kind : MacroKind) : Checked Nat := do
  match ← index i.macros.toList kind.index with
  | none => return defaultMacro kind
  | some number =>
    let indices ← index (PerKind.toList map) kind.index
    return indices[number.toNat]?.getD (defaultMacro kind)

theorem resolve_value (map : MacroMap) (i : Instrument) (kind : MacroKind) :
    resolve map i kind = .ok (Pool.resolve map i kind) := by
  rw [resolve, index_kind, ok_bind, Pool.resolve]
  cases i.macros.get kind with
  | none => rfl
  | some number =>
    simp only [index_kind, ok_bind]
    rfl

def instrumentMacros (map : MacroMap) (i : Instrument) : Checked (PerKind UInt8) :=
  MacroKind.all.foldlM
    (fun macros kind => do
      let number ← resolve map i kind
      setEntry PerKind.ofList? macros.toList kind.index (indexByte .macros number).value)
    ⟨0, 0, 0, 0, 0⟩

theorem instrumentMacros_value (map : MacroMap) (i : Instrument) :
    instrumentMacros map i = .ok
      (.ofFn fun kind => (indexByte .macros (Pool.resolve map i kind)).value) := by
  have step (macros : PerKind UInt8) (kind : MacroKind) :
      (do
        let number ← resolve map i kind
        setEntry PerKind.ofList? macros.toList kind.index (indexByte .macros number).value)
      = .ok (macros.set kind (indexByte .macros (Pool.resolve map i kind)).value) := by
    rw [resolve_value, ok_bind, setEntry_kind]
  exact foldlM_value step _

def internInstruments (title : String) (map : MacroMap) :
    Pool → Nat → List Instrument → Checked (Pool × List UInt8 × List PackError)
  | p, _, [] => .ok (p, [], [])
  | p, number, i :: is => do
    let macros ← instrumentMacros map i
    let (instruments, interned) ← intern p.instruments macros ⟨title, i.name⟩
    let byte := indexByte .instruments interned.index
    let (p, bytes, errors) ←
      internInstruments title map { p with instruments := instruments } (number + 1) is
    return (p, byte.value :: bytes,
      MacroKind.all.flatMap (Pool.slotErrors map i number) ++ byte.errors ++ errors)

theorem internInstruments_value (title : String) (map : MacroMap) (p : Pool) (number : Nat)
    (is : List Instrument) :
    internInstruments title map p number is
      = .ok (Pool.internInstruments title map p number is) := by
  induction is generalizing p number with
  | nil => rfl
  | cons i is ih =>
    simp only [internInstruments, instrumentMacros_value, intern_value, ok_bind, ih]
    rfl

/-! Songs -/

def slots (t : Track) (c : Channel) : Checked (List UInt8) := do
  let column ← t.order.mapM fun frame => index frame.toList c.index
  return match column.max? with
    | some top => (List.range (top.toNat + 1)).map UInt8.ofNat
    | none => []

theorem slots_value (t : Track) (c : Channel) : slots t c = .ok (t.slots c) := by
  rw [slots, mapM_value fun frame _ => index_channel frame c, ok_bind]
  rfl

def addSlot (track : Track) (instruments : List UInt8) (v : Voice) (d : PatternDraft)
    (slot : UInt8) : Checked PatternDraft := do
  let stream ← encode track instruments v.channel slot
  let (patterns, interned) ←
    intern d.pool.patterns stream.value.bytes ⟨track.title, v.channel, slot⟩
  let numbers ← index (PerVoice.toList d.map) v.channel.index
  let map ← setEntry PerVoice.ofList? (PerVoice.toList d.map) v.channel.index
    (numbers ++ [interned.index])
  return {
    pool := { d.pool with patterns := patterns }
    map := map
    newPatterns := d.newPatterns ++ (if interned.isNew then [interned.index] else [])
    errors := d.errors ++ stream.errors
    loops := d.loops + stream.value.loops }

def addVoice (track : Track) (instruments : List UInt8) (d : PatternDraft) (v : Voice) :
    Checked PatternDraft := do
  let slots ← slots track v.channel
  slots.foldlM (addSlot track instruments v) d

theorem addSlot_value {track : Track} (exportable : track.Exportable) (instruments : List UInt8)
    (v : Voice) (d : PatternDraft) (slot : UInt8) :
    addSlot track instruments v d slot = .ok (d.addSlot track instruments v slot) := by
  simp only [addSlot, encode_value exportable, ok_bind, intern_value, index_voice, setEntry_voice]
  rfl

theorem addVoice_value {track : Track} (exportable : track.Exportable) (instruments : List UInt8)
    (d : PatternDraft) (v : Voice) :
    addVoice track instruments d v = .ok (d.addVoice track instruments v) := by
  rw [addVoice, slots_value, ok_bind]
  exact foldlM_value (addSlot_value exportable instruments v) d

def packFrame (map : PatternMap) (frame : Frame) : Checked (Diagnosed PackError PackedFrame) :=
  Voice.all.foldlM
    (fun packed v => do
      let slot ← index frame.toList v.channel.index
      let numbers := (PerVoice.toList map)[v.channel.index]?.getD []
      let byte := indexByte .patterns (numbers[slot.toNat]?.getD 0)
      let bytes ← setEntry PerVoice.ofList? packed.value.toList v.channel.index byte.value
      return ⟨bytes, packed.errors ++ byte.errors⟩)
    ⟨⟨0, 0, 0, 0⟩, []⟩

theorem packFrame_value (map : PatternMap) (frame : Frame) :
    packFrame map frame = .ok (TuneBank.packFrame map frame) := by
  have step (packed : Diagnosed PackError PackedFrame) (v : Voice) :
      (do
        let slot ← index frame.toList v.channel.index
        let numbers := (PerVoice.toList map)[v.channel.index]?.getD []
        let byte := indexByte .patterns (numbers[slot.toNat]?.getD 0)
        let bytes ← setEntry PerVoice.ofList? packed.value.toList v.channel.index byte.value
        return ⟨bytes, packed.errors ++ byte.errors⟩)
      = (.ok ⟨packed.value.set v (indexByte .patterns (frameIndex map frame v)).value,
          packed.errors ++ (indexByte .patterns (frameIndex map frame v)).errors⟩
        : Checked (Diagnosed PackError PackedFrame)) := by
    simp only [index_channel, ok_bind, setEntry_voice]
    cases v <;> rfl
  rw [packFrame, foldlM_value step]
  simp [TuneBank.packFrame, Voice.all]
  rfl

def packSong (p : Pool) (track : Track) : Checked (Pool × Diagnosed PackError PackedSong) := do
  let (p, macros) ← remapMacros p track
  let (p, instruments, instrumentErrors) ←
    internInstruments track.title macros p 0 track.instruments
  let patterns ← Voice.all.foldlM (addVoice track instruments) ⟨p, ⟨[], [], [], []⟩, [], [], 0⟩
  let frames ← track.order.mapM (packFrame patterns.map)
  let unlooped : List PackError := if patterns.loops = 0 then [.noLoopPoint] else []
  return (patterns.pool,
    { value :=
        { title := track.title
          speed := track.speed
          patternLength := track.patternLength
          order := frames.map Diagnosed.value
          newPatterns := patterns.newPatterns }
      errors := instrumentErrors ++ patterns.errors ++ frames.flatMap Diagnosed.errors
        ++ unlooped })

theorem packSong_value {track : Track} (exportable : track.Exportable) (p : Pool) :
    packSong p track = .ok (p.packSong track) := by
  have voices (p : Pool) (instruments : List UInt8) :
      Voice.all.foldlM (addVoice track instruments) ⟨p, ⟨[], [], [], []⟩, [], [], 0⟩
        = .ok (p.packPatterns track instruments) :=
    foldlM_value (addVoice_value exportable instruments) _
  simp only [packSong, remapMacros_value, ok_bind, internInstruments_value, voices,
    mapM_value fun frame _ => packFrame_value _ frame]
  rfl

/-! Runs -/

def addSong (b : Batch) (source text : String) : Checked (Batch × Nat) := do
  let loaded ← load text 1
  let (pool, packed) ← packSong b.pool loaded.value
  let number := b.set.songs.length
  let (ident, warnings) :=
    Title.assign (b.set.songs.map SongEntry.ident) loaded.value.title number
  return (⟨{ b.set with
      pool := pool
      songs := b.set.songs ++ [⟨ident, packed.value⟩]
      report := Batch.reportSource b.report source loaded.errors packed.errors warnings }⟩, number)

def addSfx (b : Batch) (source text : String) : Checked (Batch × Nat) := do
  let loaded ← load text 1
  let packed ← encodeSfx loaded.value
  let sfx := b.pool.sfx ++ [⟨loaded.value.title, packed.value⟩]
  let number ← subtract sfx.length 1
  let (ident, warnings) := Title.assign b.set.sfxIdents loaded.value.title number
  return (⟨{ b.set with
      pool := { b.pool with sfx := sfx }
      sfxIdents := b.set.sfxIdents ++ [ident]
      report := Batch.reportSource b.report source loaded.errors packed.errors warnings }⟩, number)

theorem addSong_value (b : Batch) (source text : String) :
    addSong b source text = .ok (b.addSong source text) := by
  simp only [addSong, load_value, ok_bind, packSong_value (Export.exportable_load text 1)]
  rfl

theorem addSfx_value (b : Batch) (source text : String) :
    addSfx b source text = .ok (b.addSfx source text) := by
  simp only [addSfx, load_value, ok_bind, encodeSfx_value (Export.exportable_load text 1)]
  rw [subtract_value (by simp), ok_bind, List.length_append, List.length_singleton,
    Nat.add_sub_cancel]
  rfl

def add (b : Batch) : SourceKind → String → String → Checked (Batch × Nat)
  | .music => addSong b
  | .sfx => addSfx b

theorem add_value (b : Batch) (kind : SourceKind) (source text : String) :
    add b kind source text = .ok (b.add kind source text) := by
  cases kind with
  | music => exact addSong_value b source text
  | sfx => exact addSfx_value b source text

end TuneBank.Checked
