import TuneBank.Proofs.Checked.Cells
import TuneBank.Proofs.Export.Cells

/-! Patterns encoded byte by byte. The bytes of a row go into a buffer of fixed size, which is just
large enough for a row of four effects: each column appends its bytes where there is room for them,
and `length_bytes_codeCell_le` says that there is room for all. -/

namespace TuneBank

namespace Bytecode

def Playable.byte? : Playable → Option UInt8
  | silent | refused _ => none
  | halt => some Code.halt
  | pitch byte => some byte

theorem bytes_codeNote (place : Location) (note : Note) :
    (codeNote place note).tokens.flatMap Token.bytes = (playable place note).byte?.toList := by
  rw [codeNote]
  cases playable place note <;> rfl

theorem endsRow_eq_isSome (place : Location) (note : Note) :
    endsRow place note = (playable place note).byte?.isSome := by
  rw [endsRow, codeNote]
  cases playable place note <;> rfl

theorem Token.bytes_ne_nil (t : Token) : t.bytes ≠ [] := by
  cases t <;> exact List.cons_ne_nil _ _

def SkipWriter.inBytes {τ : Type} (bytes : τ → List UInt8) (w : SkipWriter τ) : SkipWriter UInt8 :=
  ⟨w.out.flatMap bytes, w.pending⟩

end Bytecode

namespace Checked

open Bytecode

/-! Columns -/

/-- The byte of a pitch, which is added up in a word and cut to a byte. -/
def pitchByte? (pitch : Nat) : Checked (Option UInt8) := do
  let pitch ← word pitch
  return if pitch ≥ Code.volume.toNat then none else some (UInt8.ofNat pitch)

def noteByte? : Note → Checked (Option UInt8)
  | .blank | .release => .ok none
  | .halt => .ok (some Code.halt)
  | .tone octave semitone => pitchByte? (tonePitch octave semitone)
  | .noise period => pitchByte? (noisePitch period)

theorem tonePitch_lt (octave semitone : UInt8) : tonePitch octave semitone < UInt16.size := by
  have high := octave.toNat_lt
  have low := semitone.toNat_lt
  rw [tonePitch_eq]
  change 128 + 1 + (12 * octave.toNat + semitone.toNat) < 65536
  omega

theorem noisePitch_lt (period : UInt8) : noisePitch period < UInt16.size := by
  have low := period.toNat_lt
  change 128 + 1 + period.toNat < 65536
  omega

theorem noteByte?_value (place : Location) (note : Note) :
    noteByte? note = .ok (playable place note).byte? := by
  have limited (pitch : Nat) (small : pitch < UInt16.size) : pitchByte? pitch = .ok
      (if pitch ≥ Code.volume.toNat then Playable.refused (.noteOutOfRange place note)
        else .pitch (UInt8.ofNat pitch)).byte? := by
    rw [pitchByte?, word_value small, ok_bind, pure_eq_ok, apply_ite Playable.byte?]
    rfl
  cases note with
  | blank | halt | release => rfl
  | tone octave semitone => exact limited _ (tonePitch_lt octave semitone)
  | noise period => exact limited _ (noisePitch_lt period)

def emitLevel (capacity : Nat) (last : Option UInt8) (buffer : List UInt8) (volume : Option UInt8) :
    Checked (List UInt8) :=
  match volume.filter fun level => last ≠ some level with
  | none => .ok buffer
  | some level => do
    let byte ← addBytes Code.volume level
    push capacity buffer byte

def levelByte? (last volume : Option UInt8) : Option UInt8 :=
  (volume.filter fun level => last ≠ some level).map (Code.volume + ·)

theorem appends_emitLevel {capacity : Nat} {volume : Option UInt8}
    (small : ∀ level ∈ volume, level.toNat ≤ 15) (last : Option UInt8) :
    Appends capacity (emitLevel capacity last · volume) (levelByte? last volume).toList := by
  unfold emitLevel levelByte?
  cases written : volume.filter fun level => last ≠ some level with
  | none => exact .nothing
  | some level =>
    have low := small level (Option.filter_eq_some_iff.mp written).1
    have fits : Code.volume.toNat + level.toNat < 256 := by
      change 224 + level.toNat < 256
      omega
    simp only [addBytes_value fits, ok_bind]
    exact .one _

theorem length_toList_le {α : Type} (a : Option α) : a.toList.length ≤ 1 := by
  cases a <;> simp

/-! Rows of a pattern -/

/-- Most bytes of a row: four effects of two bytes each, a volume, an instrument change and a
note. -/
def rowCapacity : Nat := 12

def emitEffect (buffer : List UInt8) (e : Effect) : Checked (List UInt8) :=
  if e.code = loopLetter then pushAll rowCapacity buffer [Code.loop, e.param]
  else if e.code = breakLetter then push rowCapacity buffer Code.patternBreak
  else if e.code = speedLetter then pushAll rowCapacity buffer [Code.speed, e.param]
  else .ok buffer

def emitInstrument (map : List UInt8) (last : Option UInt8) (buffer : List UInt8)
    (instrument : Option UInt8) : Checked (List UInt8) :=
  match (instrument.filter fun number => last ≠ some number).bind fun number =>
      map[number.toNat]? with
  | none => .ok buffer
  | some byte => pushAll rowCapacity buffer [Code.instrument, byte]

def emitRow (s : Running) (map : List UInt8) (cell : Cell) : Checked (List UInt8 × Bool) := do
  let buffer ← cell.effects.foldlM emitEffect []
  let buffer ← emitLevel rowCapacity s.volume buffer cell.volume
  let buffer ← emitInstrument map s.instrument buffer cell.instrument
  let note ← noteByte? cell.note
  let buffer ← pushAll rowCapacity buffer note.toList
  return (buffer, note.isSome)

def effectBytes (e : Effect) : List UInt8 := (effectToken? e).toList.flatMap Token.bytes

theorem flatMap_effectBytes (es : List Effect) :
    es.flatMap effectBytes = (es.filterMap effectToken?).flatMap Token.bytes := by
  rw [List.filterMap_eq_flatMap_toList, List.flatMap_assoc]
  rfl

theorem length_effectBytes_le (e : Effect) : (effectBytes e).length ≤ 2 := by
  unfold effectBytes effectToken?
  split_ifs <;> exact Nat.le_of_ble_eq_true rfl

theorem appends_emitEffect (e : Effect) :
    Appends rowCapacity (emitEffect · e) (effectBytes e) := by
  unfold emitEffect effectBytes effectToken?
  split_ifs
  · exact .all _
  · exact .one _
  · exact .all _
  · exact .nothing

def instrumentBytes (s : Running) (map : List UInt8) (instrument : Option UInt8) : List UInt8 :=
  (s.instrumentToken? map instrument).toList.flatMap Token.bytes

theorem length_instrumentBytes_le (s : Running) (map : List UInt8) (instrument : Option UInt8) :
    (instrumentBytes s map instrument).length ≤ 2 := by
  unfold instrumentBytes Running.instrumentToken?
  cases (instrument.filter fun number => s.instrument ≠ some number).bind fun number =>
      map[number.toNat]? <;> exact Nat.le_of_ble_eq_true rfl

theorem appends_emitInstrument (s : Running) (map : List UInt8) (instrument : Option UInt8) :
    Appends rowCapacity (emitInstrument map s.instrument · instrument)
      (instrumentBytes s map instrument) := by
  unfold emitInstrument instrumentBytes Running.instrumentToken?
  cases (instrument.filter fun number => s.instrument ≠ some number).bind fun number =>
      map[number.toNat]? with
  | none => exact .nothing
  | some byte => exact .all _

theorem bytes_codeVolume (s : Running) (volume : Option UInt8) :
    (s.codeVolume volume).tokens.flatMap Token.bytes = (levelByte? s.volume volume).toList := by
  rw [Running.tokens_codeVolume, Running.volumeToken?, levelByte?]
  cases volume.filter fun level => s.volume ≠ some level <;> rfl

theorem bytes_codeCell (s : Running) (map : List UInt8) (place : Location) (cell : Cell) :
    (s.codeCell map place cell).tokens.flatMap Token.bytes
      = cell.effects.flatMap effectBytes ++ (levelByte? s.volume cell.volume).toList
        ++ instrumentBytes s map cell.instrument ++ (playable place cell.note).byte?.toList := by
  simp only [Running.codeCell, Coded.tokens_append, List.flatMap_append, tokens_codeEffects,
    bytes_codeVolume, Running.tokens_codeInstrument, bytes_codeNote, flatMap_effectBytes,
    instrumentBytes]

theorem length_bytes_codeCell_le {c : Channel} {cell : Cell} (exportable : cell.Exportable c)
    (s : Running) (map : List UInt8) (place : Location) :
    ((s.codeCell map place cell).tokens.flatMap Token.bytes).length ≤ rowCapacity := by
  have count : cell.effects.length ≤ 4 := exportable.count
  have effects : (cell.effects.flatMap effectBytes).length ≤ 2 * cell.effects.length :=
    length_flatMap_le fun e _ => length_effectBytes_le e
  have level := length_toList_le (levelByte? s.volume cell.volume)
  have instrument := length_instrumentBytes_le s map cell.instrument
  have note := length_toList_le (playable place cell.note).byte?
  simp only [bytes_codeCell, List.length_append, rowCapacity]
  omega

theorem emitRow_value {c : Channel} {cell : Cell} (exportable : cell.Exportable c) (s : Running)
    (map : List UInt8) (place : Location) :
    emitRow s map cell = .ok ((s.codeCell map place cell).tokens.flatMap Token.bytes,
      endsRow place cell.note) := by
  have columns := (((Appends.each appends_emitEffect cell.effects).andThen
      (appends_emitLevel exportable.volume s.volume)).andThen
      (appends_emitInstrument s map cell.instrument)).andThen
      (.all (playable place cell.note).byte?.toList)
  rw [← bytes_codeCell] at columns
  have filled := columns.fill (length_bytes_codeCell_le exportable s map place)
    fun buffer => (pure (buffer, (playable place cell.note).byte?.isSome) : Checked _)
  simp only [bind_assoc] at filled
  rw [endsRow_eq_isSome]
  simpa only [emitRow, noteByte?_value place, ok_bind, pure_eq_ok] using filled

/-- The largest row fills its buffer, and a fifth effect would not go in. -/
example : (emitRow .start [0] ⟨.tone 4 0, some 0, some 15, List.replicate 4 ⟨loopLetter, 0⟩⟩).map
      (·.1.length) = .ok rowCapacity
    ∧ emitRow .start [0] ⟨.tone 4 0, some 0, some 15, List.replicate 5 ⟨loopLetter, 0⟩⟩
      = .error .capacity := ⟨rfl, rfl⟩

/-! Streams -/

def account (w : SkipWriter UInt8) (bytes : List UInt8) (ends : Bool) :
    Checked (SkipWriter UInt8 × Option Nat) :=
  if bytes.isEmpty then .ok (w.silent 1, none)
  else if w.pending = 0 then .ok (⟨w.out ++ bytes, if ends then 0 else 1⟩, w.overflow?)
  else do
    let due ← subtract w.pending 1
    return (⟨w.out ++ [SkipWriter.gap due] ++ bytes, if ends then 0 else 1⟩, w.overflow?)

section
variable {τ : Type} [Skipping τ] {bytes : τ → List UInt8}
  (skip : ∀ rows, bytes (Skipping.skip rows) = [rows])
include skip

theorem bytes_gap (count : Nat) : bytes (SkipWriter.gap count) = [SkipWriter.gap count] := skip _

theorem account_value (nonempty : ∀ t, bytes t ≠ []) (w : SkipWriter τ) (tokens : List τ)
    (ends : Bool) :
    account (w.inBytes bytes) (tokens.flatMap bytes) ends =
      let (w, cut) := if tokens.isEmpty then (w.silent 1, none) else w.write tokens ends
      .ok (w.inBytes bytes, cut) := by
  cases tokens with
  | nil => rfl
  | cons t tokens =>
    have some : ¬ ((t :: tokens).flatMap bytes).isEmpty := by
      simp [nonempty t]
    rw [account, if_neg some, SkipWriter.write]
    by_cases none : w.pending = 0
    · simp [none, SkipWriter.inBytes, SkipWriter.overflow?]
    · have due : 1 ≤ w.pending := Nat.pos_of_ne_zero none
      simp [none, SkipWriter.inBytes, SkipWriter.overflow?, subtract_value due, bytes_gap skip]

theorem finish_inBytes (w : SkipWriter τ) :
    (w.inBytes bytes).finish = (w.finish.1.flatMap bytes, w.finish.2) := by
  by_cases none : w.pending = 0
  · simp [SkipWriter.finish, SkipWriter.inBytes, SkipWriter.overflow?, none]
  · simp [SkipWriter.finish, SkipWriter.inBytes, SkipWriter.overflow?, none, bytes_gap skip]

end

def encodeRows (t : Track) (map : List UInt8) (c : Channel) (slot : UInt8) :
    Nat → Nat → Running → SkipWriter UInt8 → Checked (Running × SkipWriter UInt8 × List PackError)
  | _, 0, s, w => .ok (s, w, [])
  | row, n + 1, s, w => do
    let place : Location := ⟨c, slot, row⟩
    let cell ← cell t c slot row
    let (bytes, ends) ← emitRow s map cell
    let (w, cut) ← account w bytes ends
    let (after, w, errors) ← encodeRows t map c slot (row + 1) n (s.after map cell) w
    return (after, w,
      (s.codeCell map place cell).errors ++ (cut.map (PackError.tooManySkips place)).toList
        ++ errors)

structure Encoded where
  bytes : List UInt8
  loops : Nat

def encode (t : Track) (map : List UInt8) (c : Channel) (slot : UInt8) :
    Checked (Diagnosed PackError Encoded) := do
  let (s, w, errors) ← encodeRows t map c slot 0 t.patternLength .start .new
  let (bytes, cut) := w.finish
  return ⟨⟨bytes, s.loops⟩,
    errors ++ (cut.map (PackError.tooManySkipsAtEnd c slot)).toList⟩

theorem encodeRows_value {t : Track} (exportable : t.Exportable) (map : List UInt8) (c : Channel)
    (slot : UInt8) (n : Nat) (row : Nat) (s : Running) (w : SkipWriter Token) :
    encodeRows t map c slot row n s (w.inBytes Token.bytes) =
      let cells := (List.range' row n).map (t.cell c slot)
      let (w, errors) := writeCells map c slot row s w cells
      .ok (cells.foldl (·.after map ·) s, w.inBytes Token.bytes, errors) := by
  induction n generalizing row s w with
  | zero => rfl
  | succ n ih =>
    rw [encodeRows, cell_value, ok_bind,
      emitRow_value (exportable.cell c slot row) s map ⟨c, slot, row⟩, ok_bind]
    simp only [account_value (fun _ => rfl) Token.bytes_ne_nil, ok_bind, ih]
    rfl

theorem loops_foldl_after (map : List UInt8) (cells : List Cell) (s : Running) :
    (cells.foldl (·.after map ·) s).loops = s.loops + countLoops (cells.flatMap Cell.effects) := by
  induction cells generalizing s with
  | nil => rfl
  | cons cell cells ih =>
    rw [List.foldl_cons, ih, List.flatMap_cons, countLoops, countLoops, List.countP_append,
      ← Nat.add_assoc]
    rfl

theorem encode_value {t : Track} (exportable : t.Exportable) (map : List UInt8) (c : Channel)
    (slot : UInt8) :
    encode t map c slot
      = .ok ((Bytecode.encode t map c slot).map fun stream => ⟨stream.bytes, stream.loops⟩) := by
  have start : SkipWriter.new = (SkipWriter.new : SkipWriter Token).inBytes Token.bytes := rfl
  rw [encode, start, encodeRows_value exportable, ← List.range_eq_range', ← Track.column_eq_map]
  have skip (rows : UInt8) : Token.bytes (Skipping.skip rows) = [rows] := rfl
  have loops : ((t.column c slot).foldl (·.after map ·) Running.start).loops
      = countLoops ((t.column c slot).flatMap Cell.effects) :=
    (loops_foldl_after map _ _).trans (Nat.zero_add _)
  simp only [ok_bind, finish_inBytes skip, loops]
  rfl

end Checked

end TuneBank
