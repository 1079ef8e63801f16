import Mathlib.Data.List.Basic
import TuneBank.Proofs.Stream.Reports

/-! Where the notes of a pattern go. A note with a pitch is written as that pitch or, from the first
volume on, reported as out of range; nothing else is written as a pitch. Both lists are in row
order, so the pitches of a stream and those reports add up to the pitched notes of the slot. -/

namespace TuneBank

def PackError.isNoteOutOfRange : PackError → Bool
  | noteOutOfRange _ _ => true
  | _ => false

namespace Bytecode

def Token.isPitch : Token → Bool
  | pitch _ => true
  | _ => false

def pitchToken? (note : Note) : Option Token :=
  (note.pitch?.filter (· < Code.volume.toNat)).map fun pitch => .pitch (UInt8.ofNat pitch)

def outOfRange? (place : Location) (note : Note) : Option PackError :=
  (note.pitch?.filter (Code.volume.toNat ≤ ·)).map fun _ => .noteOutOfRange place note

theorem isSome_pitch?_of_pitchToken? {note : Note} (written : (pitchToken? note).isSome) :
    note.pitch?.isSome := by
  cases own : note.pitch? with
  | none => simp [pitchToken?, own] at written
  | some pitch => rfl

theorem isSome_outOfRange? (place : Location) (note : Note) :
    (outOfRange? place note).isSome = (note.pitch?.isSome && !(pitchToken? note).isSome) := by
  cases own : note.pitch? with
  | none => simp [outOfRange?, own]
  | some pitch =>
    by_cases high : Code.volume.toNat ≤ pitch
    · simp [outOfRange?, pitchToken?, own, Option.filter_some, high]
    · simp [outOfRange?, pitchToken?, own, Option.filter_some, high, Nat.lt_of_not_le high]

/-! The pitches of a stream -/

theorem filter_soundToken (note : Note) :
    (Sound.ofNote note).token?.toList.filter Token.isPitch = (pitchToken? note).toList := by
  have pitched (number pitch : Nat) (own : note.pitch? = some pitch)
      (byte : pitch = Code.halt.toNat + 1 + number) (heard : Sound.ofNote note = .ofPitch number) :
      (Sound.ofNote note).token?.toList.filter Token.isPitch = (pitchToken? note).toList := by
    rw [heard, Sound.ofPitch, pitchToken?, own, Option.filter_some, byte]
    by_cases low : Code.halt.toNat + 1 + number < Code.volume.toNat
    · rw [if_pos low, decide_eq_true low]
      rfl
    · rw [if_neg low, decide_eq_false low]
      rfl
  cases note with
  | blank | halt | release => rfl
  | tone octave semitone => exact pitched _ _ rfl (tonePitch_eq octave semitone) rfl
  | noise period => exact pitched _ _ rfl rfl rfl

theorem Token.isPitch_of_isCommand {t : Token} (h : t.isCommand) : t.isPitch = false := by
  cases t with
  | pitch byte => exact absurd h Bool.false_ne_true
  | _ => rfl

theorem filter_tokens_codeCell (s : Running) (map : List UInt8) (place : Location) (cell : Cell) :
    (s.codeCell map place cell).tokens.filter Token.isPitch = (pitchToken? cell.note).toList := by
  rw [tokens_codeCell, List.filter_append, filter_soundToken, List.filter_eq_nil_iff.mpr,
    List.nil_append]
  intro t member
  rw [Token.isPitch_of_isCommand (isCommand_of_mem_columns member)]
  exact Bool.false_ne_true

section
variable {τ : Type} [Skipping τ] {p : τ → Bool} (skips : ∀ rows, p (Skipping.skip rows) = false)
include skips

theorem SkipWriter.filter_gap (w : SkipWriter τ) (count : Nat) :
    (if w.pending = 0 then [] else [gap count] : List τ).filter p = [] := by
  split_ifs
  · rfl
  · simp [gap, skips]

theorem SkipWriter.filter_write (w : SkipWriter τ) (tokens : List τ) (ends : Bool) :
    (w.write tokens ends).1.out.filter p = w.out.filter p ++ tokens.filter p := by
  change (w.out ++ _ ++ tokens).filter p = _
  rw [List.filter_append, List.filter_append, w.filter_gap skips, List.append_nil]

theorem SkipWriter.filter_finish (w : SkipWriter τ) : w.finish.1.filter p = w.out.filter p := by
  change (w.out ++ _).filter p = _
  rw [List.filter_append, w.filter_gap skips, List.append_nil]

end

theorem filter_writeCells (map : List UInt8) (c : Channel) (slot : UInt8) (cells : List Cell)
    (row : Nat) (s : Running) (w : SkipWriter Token) :
    (writeCells map c slot row s w cells).1.out.filter Token.isPitch
      = w.out.filter Token.isPitch ++ cells.flatMap fun cell => (pitchToken? cell.note).toList := by
  induction cells generalizing row s w with
  | nil => exact (List.append_nil _).symm
  | cons cell cells ih =>
    have own := filter_tokens_codeCell s map ⟨c, slot, row⟩ cell
    rw [List.flatMap_cons, ← own]
    by_cases none : (s.codeCell map ⟨c, slot, row⟩ cell).tokens = []
    · rw [writeCells_cons_of_silent none, ih, none]
      rfl
    · have written := w.filter_write (p := Token.isPitch) (fun _ => rfl)
        (s.codeCell map ⟨c, slot, row⟩ cell).tokens (endsRow ⟨c, slot, row⟩ cell.note)
      rw [writeCells_cons_of_tokens none rfl, ih, ← List.append_assoc, ← written]
      rfl

variable (t : Track) (map : List UInt8) (c : Channel) (slot : UInt8)

theorem filter_tokens_encode :
    (encode t map c slot).value.tokens.filter Token.isPitch
      = (t.column c slot).filterMap fun cell => pitchToken? cell.note := by
  rw [List.filterMap_eq_flatMap_toList]
  exact (SkipWriter.filter_finish (fun _ => rfl) _).trans
    (filter_writeCells map c slot (t.column c slot) 0 .start .new)

/-! The reports of high notes -/

theorem filter_noteReports (place : Location) (note : Note) :
    (noteReports place note).filter PackError.isNoteOutOfRange
      = (outOfRange? place note).toList := by
  have release : (if note = .release then [PackError.release place] else []).filter
      PackError.isNoteOutOfRange = [] := by
    split_ifs <;> rfl
  rw [noteReports, List.filter_append, release, List.nil_append, outOfRange?]
  cases own : note.pitch? with
  | none => simp
  | some pitch =>
    by_cases high : Code.volume.toNat ≤ pitch <;>
      simp [high, Option.filter_some, PackError.isNoteOutOfRange]

theorem filter_effectReports (place : Location) (before : List Effect) (e : Effect) :
    (effectReports place before e).filter PackError.isNoteOutOfRange = [] := by
  unfold effectReports
  split_ifs <;> rfl

theorem filter_instrumentReports (place : Location) (known : Nat) (instrument : Option UInt8) :
    (instrumentReports place known instrument).filter PackError.isNoteOutOfRange = [] := by
  unfold instrumentReports
  cases instrument.filter fun number => known ≤ number.toNat <;> rfl

theorem filter_rowReports (known row : Nat) :
    (t.rowReports c slot known row).filter PackError.isNoteOutOfRange
      = (outOfRange? ⟨c, slot, row⟩ (t.cell c slot row).note).toList := by
  simp [Track.rowReports, cellReports, List.filter_flatMap, filter_effectReports,
    filter_instrumentReports, filter_noteReports]

theorem filter_errors_encode_of_notes :
    (encode t map c slot).errors.filter PackError.isNoteOutOfRange
      = (List.range t.patternLength).filterMap fun row =>
          outOfRange? ⟨c, slot, row⟩ (t.cell c slot row).note := by
  have column (e : PackError) :
      (e.isNoteOutOfRange && !e.isSkipOverflow) = e.isNoteOutOfRange := by
    cases e <;> rfl
  have rows := congrArg (List.filter PackError.isNoteOutOfRange) (filter_errors_encode t map c slot)
  simp only [List.filter_filter, column, List.filter_flatMap, filter_rowReports] at rows
  rw [rows, List.filterMap_eq_flatMap_toList]

theorem countP_encode :
    (encode t map c slot).value.tokens.countP Token.isPitch
        + (encode t map c slot).errors.countP PackError.isNoteOutOfRange
      = (t.column c slot).countP fun cell => cell.note.pitch?.isSome := by
  let rows := List.range t.patternLength
  let note (row : Nat) : Note := (t.cell c slot row).note
  have written (row : Nat) : ((note row).pitch?.isSome && (pitchToken? (note row)).isSome)
      = (pitchToken? (note row)).isSome :=
    Bool.and_eq_right_iff_imp.mpr isSome_pitch?_of_pitchToken?
  calc
    _ = rows.countP (fun row => (pitchToken? (note row)).isSome)
        + rows.countP fun row => (outOfRange? ⟨c, slot, row⟩ (note row)).isSome := by
      rw [List.countP_eq_length_filter, List.countP_eq_length_filter, filter_tokens_encode,
        filter_errors_encode_of_notes, List.length_filterMap_eq_countP,
        List.length_filterMap_eq_countP, Track.column_eq_map, List.countP_map]
      rfl
    _ = rows.countP fun row => (note row).pitch?.isSome := by
      have split := List.countP_eq_countP_filter_add rows (fun row => (note row).pitch?.isSome)
        fun row => (pitchToken? (note row)).isSome
      simp only [List.countP_filter, written] at split
      simpa only [isSome_outOfRange?] using split.symm
    _ = _ := by
      rw [Track.column_eq_map, List.countP_map]
      rfl

end Bytecode
end TuneBank
