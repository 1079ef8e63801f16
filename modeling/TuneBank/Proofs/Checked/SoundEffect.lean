import TuneBank.Bytecode.SoundEffect
import TuneBank.Proofs.Checked.Encoding
import TuneBank.Proofs.Stream.SoundEffect

/-! Sound effects encoded byte by byte. A row takes a byte for each effect, one for its volume and
one for its note; a duty is masked before it is added up. -/

namespace TuneBank

namespace Bytecode

theorem playable_ne_halt (place : Location) {note : Note} (other : note ≠ .halt) :
    playable place note ≠ .halt := by
  cases note with
  | halt => exact absurd rfl other
  | blank | release => exact nofun
  | tone octave semitone | noise period =>
    simp only [playable]
    split_ifs <;> exact nofun

theorem bytes_codePitch (place : Location) (note : Note) :
    (codePitch place note).tokens.map SfxToken.byte
      = if note = .halt then [] else (playable place note).byte?.toList := by
  by_cases cut : note = .halt
  · rw [if_pos cut, cut]
    rfl
  · have noCut := playable_ne_halt place cut
    rw [if_neg cut, codePitch]
    cases heard : playable place note with
    | halt => exact absurd heard noCut
    | silent | pitch | refused => rfl

theorem endsSfxRow_eq_isSome (place : Location) (note : Note) :
    endsSfxRow place note = (note = .halt || (playable place note).byte?.isSome) := by
  by_cases cut : note = .halt
  · simp [endsSfxRow, cut]
  · have noCut := playable_ne_halt place cut
    rw [endsSfxRow, codePitch]
    cases heard : playable place note with
    | halt => exact absurd heard noCut
    | silent | pitch | refused => rfl

def SfxToken.bytes (t : SfxToken) : List UInt8 := [t.byte]

theorem SfxToken.flatMap_bytes (ts : List SfxToken) : ts.flatMap bytes = ts.map byte :=
  List.map_eq_flatMap.symm

end Bytecode

namespace Checked

open Bytecode

def sfxCapacity : Nat := 8

def emitDuty (mode : SfxMode) (buffer : List UInt8) (e : Effect) : Checked (List UInt8) :=
  if e.code = dutyLetter then do
    let byte ← addBytes Code.duty (e.param &&& mode.dutyMask)
    push sfxCapacity buffer byte
  else .ok buffer

def emitSfxRow (mode : SfxMode) (last : Option UInt8) (cell : Cell) :
    Checked (List UInt8 × Bool) := do
  let buffer ← cell.effects.foldlM (emitDuty mode) []
  let buffer ← emitLevel sfxCapacity last buffer cell.volume
  if cell.note = .halt then return (buffer, true)
  else
    let note ← noteByte? cell.note
    let buffer ← pushAll sfxCapacity buffer note.toList
    return (buffer, note.isSome)

theorem duty_le (mode : SfxMode) (param : UInt8) : (param &&& mode.dutyMask).toNat ≤ 3 := by
  rw [UInt8.toNat_and]
  refine Nat.le_trans Nat.and_le_right ?_
  cases mode <;> decide

def dutyBytes (mode : SfxMode) (e : Effect) : List UInt8 :=
  (dutyToken? mode e).toList.map SfxToken.byte

theorem flatMap_dutyBytes (mode : SfxMode) (es : List Effect) :
    es.flatMap (dutyBytes mode) = (es.filterMap (dutyToken? mode)).map SfxToken.byte := by
  rw [List.filterMap_eq_flatMap_toList, List.map_flatMap]
  rfl

theorem length_dutyBytes_le (mode : SfxMode) (e : Effect) : (dutyBytes mode e).length ≤ 1 := by
  rw [dutyBytes, List.length_map]
  exact length_toList_le _

theorem appends_emitDuty (mode : SfxMode) (e : Effect) :
    Appends sfxCapacity (emitDuty mode · e) (dutyBytes mode e) := by
  unfold emitDuty dutyBytes dutyToken?
  split_ifs
  · have fits : Code.duty.toNat + (e.param &&& mode.dutyMask).toNat < 256 := by
      have small := duty_le mode e.param
      change 240 + _ < 256
      omega
    simp only [addBytes_value fits, ok_bind]
    exact .one _
  · exact .nothing

theorem bytes_codeLevel (last volume : Option UInt8) :
    (codeLevel last volume).tokens.map SfxToken.byte = (levelByte? last volume).toList := by
  cases volume with
  | none => rfl
  | some level =>
    by_cases same : last = some level
    · simp [codeLevel, levelByte?, same, Coded.nothing, Option.filter_some]
    · simp [codeLevel, levelByte?, same, Coded.ofToken, Option.filter_some, SfxToken.byte]

theorem bytes_codeSfxCell (mode : SfxMode) (last : Option UInt8) (place : Location) (cell : Cell) :
    (codeSfxCell mode last place cell).tokens.map SfxToken.byte
      = cell.effects.flatMap (dutyBytes mode) ++ (levelByte? last cell.volume).toList
        ++ (if cell.note = .halt then [] else (playable place cell.note).byte?.toList) := by
  simp only [codeSfxCell, Coded.tokens_append, List.map_append, tokens_codeDuties, bytes_codeLevel,
    bytes_codePitch, flatMap_dutyBytes]

theorem length_bytes_codeSfxCell_le {c : Channel} {cell : Cell} (exportable : cell.Exportable c)
    (mode : SfxMode) (last : Option UInt8) (place : Location) :
    ((codeSfxCell mode last place cell).tokens.map SfxToken.byte).length ≤ sfxCapacity := by
  have count : cell.effects.length ≤ 4 := exportable.count
  have effects : (cell.effects.flatMap (dutyBytes mode)).length ≤ 1 * cell.effects.length :=
    length_flatMap_le fun e _ => length_dutyBytes_le mode e
  have level := length_toList_le (levelByte? last cell.volume)
  have note := length_toList_le (playable place cell.note).byte?
  simp only [bytes_codeSfxCell, List.length_append, sfxCapacity]
  split_ifs
  · rw [List.length_nil]
    omega
  · omega

theorem emitSfxRow_value {c : Channel} {cell : Cell} (exportable : cell.Exportable c)
    (mode : SfxMode) (last : Option UInt8) (place : Location) :
    emitSfxRow mode last cell = .ok ((codeSfxCell mode last place cell).tokens.map SfxToken.byte,
      endsSfxRow place cell.note) := by
  have room := length_bytes_codeSfxCell_le exportable mode last place
  have columns := (Appends.each (appends_emitDuty mode) cell.effects).andThen
    (appends_emitLevel exportable.volume last)
  rw [bytes_codeSfxCell] at room ⊢
  rw [endsSfxRow_eq_isSome]
  by_cases cut : cell.note = .halt
  · rw [if_pos cut, List.append_nil] at room ⊢
    have filled := columns.fill room fun buffer => (pure (buffer, true) : Checked _)
    simp only [bind_assoc] at filled
    simpa only [emitSfxRow, cut, if_true, decide_true, Bool.true_or, pure_eq_ok] using filled
  · rw [if_neg cut] at room ⊢
    have filled := (columns.andThen (.all (playable place cell.note).byte?.toList)).fill room
      fun buffer => (pure (buffer, (playable place cell.note).byte?.isSome) : Checked _)
    simp only [bind_assoc] at filled
    simpa only [emitSfxRow, noteByte?_value place, ok_bind, cut, if_false, decide_false,
      Bool.false_or, pure_eq_ok] using filled

/-- The rows of a sound effect from one on, up to the first cut: the stream, what was wrong, and
whether there was a cut. -/
def encodeSfxRows (t : Track) (mode : SfxMode) :
    Nat → Nat → Option UInt8 → SkipWriter UInt8 →
      Checked (SkipWriter UInt8 × List PackError × Bool)
  | _, 0, _, w => .ok (w, [], false)
  | row, n + 1, last, w => do
    let place : Location := ⟨mode.channel, 0, row⟩
    let cell ← cell t mode.channel 0 row
    let (bytes, ends) ← emitSfxRow mode last cell
    let (w, cut) ← account w bytes ends
    let here := (codeSfxCell mode last place cell).errors
      ++ (cut.map (PackError.tooManySkips place)).toList
    if cell.note = .halt then return (w, here, true)
    else
      let (w, errors, halted) ← encodeSfxRows t mode (row + 1) n (cell.volume.or last) w
      return (w, here ++ errors, halted)

def sfxMode? (t : Track) : Checked (Option SfxMode) :=
  SfxMode.all.findM? fun mode => do
    let cell ← cell t mode.channel 0 0
    return cell.note.isPresent

def encodeSfx (t : Track) : Checked (Diagnosed PackError SfxStream) := do
  let pace : List PackError := if t.speed = 1 then [] else [.sfxSpeed t.speed]
  match ← sfxMode? t with
  | none => return ⟨.silence, pace ++ [.sfxNoNote]⟩
  | some mode =>
    let (w, errors, halted) ← encodeSfxRows t mode 0 t.patternLength none .new
    let unended : List PackError := if halted then [] else [.sfxNoHalt]
    return ⟨⟨w.out ++ [Code.halt], mode⟩, pace ++ errors ++ unended⟩

theorem encodeSfxRows_value {t : Track} (exportable : t.Exportable) (mode : SfxMode) (n row : Nat)
    (last : Option UInt8) (w : SkipWriter SfxToken) :
    encodeSfxRows t mode row n last (w.inBytes SfxToken.bytes) =
      let cells := (List.range' row n).map (t.cell mode.channel 0)
      let (w, errors) := writeSfxCells mode row last w (throughHalt cells)
      .ok (w.inBytes SfxToken.bytes, errors, cells.any (·.note = .halt)) := by
  induction n generalizing row last w with
  | zero => rfl
  | succ n ih =>
    rw [encodeSfxRows, cell_value, ok_bind, emitSfxRow_value (exportable.cell mode.channel 0 row)
      mode last ⟨mode.channel, 0, row⟩, ok_bind, ← SfxToken.flatMap_bytes]
    have skip (rows : UInt8) : SfxToken.bytes (Skipping.skip rows) = [rows] := rfl
    simp only [account_value skip fun _ => List.cons_ne_nil _ _, ok_bind, ih]
    by_cases cut : (t.cell mode.channel 0 row).note = .halt
    · simp [cut, List.range'_succ, throughHalt, writeSfxCells]
    · simp [cut, List.range'_succ, throughHalt, writeSfxCells]

theorem sfxMode?_value (t : Track) : sfxMode? t = .ok (Bytecode.sfxMode? t) := by
  have each (modes : List SfxMode) :
      (modes.findM? fun mode => do
        let cell ← cell t mode.channel 0 0
        return cell.note.isPresent)
      = (.ok (modes.find? fun mode => (t.cell mode.channel 0 0).note.isPresent) : Checked _) := by
    induction modes with
    | nil => rfl
    | cons mode modes ih =>
      rw [List.findM?, cell_value, ok_bind, pure_eq_ok, ok_bind, List.find?_cons]
      cases (t.cell mode.channel 0 0).note.isPresent with
      | true => rfl
      | false => exact ih
  exact each SfxMode.all

theorem encodeSfx_value {t : Track} (exportable : t.Exportable) :
    encodeSfx t = .ok (Bytecode.encodeSfx t) := by
  rw [encodeSfx, sfxMode?_value, ok_bind, Bytecode.encodeSfx]
  cases Bytecode.sfxMode? t with
  | none => rfl
  | some mode =>
    have start : SkipWriter.new = (SkipWriter.new : SkipWriter SfxToken).inBytes SfxToken.bytes :=
      rfl
    simp only [start, encodeSfxRows_value exportable, ← List.range_eq_range',
      ← Track.column_eq_map, ok_bind]
    simp only [SkipWriter.inBytes, SfxToken.flatMap_bytes, List.map_append]
    rfl

end Checked

end TuneBank
