import Mathlib.Data.List.Basic
import TuneBank.Proofs.Export.Cells
import TuneBank.Proofs.Stream.Reports

/-! Streams that were encoded without a report. Their cells are played as they stand: no effect is
lost or changed, the notes can be told from the sounds, and every instrument number that a cell
authors is known to the map. -/

namespace TuneBank.Bytecode

def Sound.note (c : Channel) : Sound → Note
  | .silent => .blank
  | .cut => .halt
  | .pitch number =>
    if c.isNoise then .noise (UInt8.ofNat number)
    else .tone (UInt8.ofNat (number / 12)) (UInt8.ofNat (number % 12))

theorem Sound.ofPitch_eq_of_clean {place : Location} {note : Note} {number : Nat}
    (own : note.pitch? = some (Code.halt.toNat + 1 + number))
    (clean : noteReports place note = []) : ofPitch number = .pitch number := by
  rw [noteReports, List.append_eq_nil_iff, own] at clean
  have low : ¬ Code.volume.toNat ≤ Code.halt.toNat + 1 + number := by simpa using clean.2
  exact if_pos (Nat.lt_of_not_le low)

theorem Sound.note_ofNote {place : Location} {note : Note} {c : Channel}
    (clean : noteReports place note = []) (own : note.OnChannel c) :
    (ofNote note).note c = note := by
  cases note with
  | blank => rfl
  | halt => rfl
  | release => exact absurd clean (List.cons_ne_nil _ _)
  | tone octave semitone =>
    obtain ⟨melodic, -, low⟩ := own
    have pitch : (Note.tone octave semitone).pitch?
        = some (Code.halt.toNat + 1 + (12 * octave.toNat + semitone.toNat)) :=
      congrArg some (tonePitch_eq octave semitone)
    have heard := ofPitch_eq_of_clean pitch clean
    have quotient : (12 * octave.toNat + semitone.toNat) / 12 = octave.toNat := by omega
    have remainder : (12 * octave.toNat + semitone.toNat) % 12 = semitone.toNat := by omega
    rw [ofNote, heard, Sound.note, if_neg (by simp [melodic]), quotient, remainder,
      UInt8.ofNat_toNat, UInt8.ofNat_toNat]
  | noise period =>
    have pitch : (Note.noise period).pitch? = some (Code.halt.toNat + 1 + period.toNat) := rfl
    have heard := ofPitch_eq_of_clean pitch clean
    rw [ofNote, heard, Sound.note, if_pos own.1, UInt8.ofNat_toNat]

structure Plain (map : List UInt8) (cell : Cell) : Prop where
  effects : ∀ e ∈ cell.effects, played? e = some e
  instrument : ∀ number, cell.instrument = some number → number.toNat < map.length
  note : ∀ c, cell.note.OnChannel c → (Sound.ofNote cell.note).note c = cell.note

theorem Plain.played_effects {map : List UInt8} {cell : Cell} (plain : Plain map cell) :
    cell.effects.filterMap played? = cell.effects :=
  (List.filterMap_congr plain.effects).trans List.filterMap_some

theorem played?_of_clean {place : Location} {before : List Effect} {e : Effect}
    (clean : effectReports place before e = []) : played? e = some e := by
  simp only [effectReports, List.append_eq_nil_iff, List.mem_cons, List.not_mem_nil, or_false]
    at clean
  obtain ⟨⟨known, -⟩, zero⟩ := clean
  unfold played?
  split_ifs with loop stop speed
  · rfl
  · have param : e.param = 0 := by simpa [stop] using zero
    rw [← stop, ← param]
  · rfl
  · simp [loop, stop, speed] at known

theorem plain_of_clean {place : Location} {map : List UInt8} {before : List Effect} {cell : Cell}
    (clean : cellReports place map.length before cell = []) : Plain map cell := by
  simp only [cellReports, List.append_eq_nil_iff, List.flatMap_eq_nil_iff] at clean
  obtain ⟨⟨effects, instrument⟩, note⟩ := clean
  refine ⟨fun e member => ?_, fun number authored => ?_, fun c own => Sound.note_ofNote note own⟩
  · obtain ⟨column, inside, rfl⟩ := List.mem_iff_getElem.mp member
    exact played?_of_clean (effects _ (List.mk_mem_zipIdx_iff_getElem?.mpr
      (List.getElem?_eq_getElem inside)))
  · rw [authored, instrumentReports, Option.toList_eq_nil_iff, Option.map_eq_none_iff] at instrument
    simpa [Option.filter_some] using instrument

theorem plain_of_encode {track : Track} {map : List UInt8} {c : Channel} {slot : UInt8}
    (clean : (encode track map c slot).errors = []) {row : Nat}
    (bound : row < track.patternLength) : Plain map (track.cell c slot row) := by
  have rows := filter_errors_encode track map c slot
  rw [clean, List.filter_nil, eq_comm, List.flatMap_eq_nil_iff] at rows
  exact plain_of_clean (rows row (List.mem_range.mpr bound))

end TuneBank.Bytecode
