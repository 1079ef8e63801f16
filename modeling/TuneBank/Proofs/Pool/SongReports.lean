import TuneBank.Proofs.Export.Contents
import TuneBank.Proofs.Pool.Diagnostics
import TuneBank.Proofs.Stream.Reports

/-! What a song is reported for, said of the cells of its track. Patterns are packed up to the
highest slot that the order names on a voice, so a cell that is never played can be reported, and
can hold the loop marker that keeps a song from being reported. Numbers of instruments below the
highest one of a file count as defined, since the importer fills them up. -/

namespace TuneBank

open Bytecode (loopLetter)

/-- The report is about the numbers of a song in the pool, or about what they stand for. -/
def PackError.isAboutNumbers : PackError → Bool
  | hiPitch _ | poolOverflow _ _ => true
  | _ => false

/-- The slot of the voice is packed: the order names it or a higher one. -/
def Track.Packs (t : Track) (v : Voice) (slot : UInt8) : Prop :=
  ∃ frame ∈ t.order, slot ≤ frame.get v.channel

theorem Track.loopsIn_eq_zero_iff (t : Track) (c : Channel) (slot : UInt8) :
    t.loopsIn c slot = 0
      ↔ ∀ row < t.patternLength, ∀ e ∈ (t.cell c slot row).effects, e.code ≠ loopLetter := by
  rw [loopsIn, Bytecode.countLoops_eq_zero_iff, column_eq_map]
  simp only [List.forall_mem_flatMap, List.forall_mem_map, List.mem_range]

namespace Export

def definedInstrument? (line : String) : Option Nat :=
  ((record? line).bind Record.instrumentEntry?).map Prod.fst

theorem length_instruments_le_iff (text : String) (wanted n : Nat) :
    (load text wanted).value.instruments.length ≤ n
      ↔ ∀ line ∈ Text.lines text, ∀ number ∈ definedInstrument? line, number < n := by
  rw [← Nat.not_lt, (shared_load text wanted).instruments.lt_length_iff n]
  simp only [definedInstrument?, Option.mem_def, Option.map_eq_some_iff, not_exists, not_and,
    Nat.not_le, forall_exists_index, and_imp, forall_apply_eq_imp_iff₂]

end Export

namespace Pool

theorem isAboutNumbers_of_mem_indexByte {table : PoolTable} {index : Nat} {e : PackError}
    (member : e ∈ (indexByte table index).errors) : e.isAboutNumbers := by
  unfold indexByte at member
  split_ifs at member
  · exact absurd member List.not_mem_nil
  · rw [List.mem_singleton.mp member]
    rfl

theorem isAboutNumbers_of_mem_instrumentErrors {title : String} {map : MacroMap} {p : Pool}
    {number : Nat} {is : List Instrument} {e : PackError}
    (member : e ∈ (internInstruments title map p number is).2.2) : e.isAboutNumbers := by
  induction is generalizing p number with
  | nil => exact absurd member List.not_mem_nil
  | cons i is ih =>
    rw [internInstruments_cons, List.mem_append, List.mem_append] at member
    rcases member with (slots | own) | later
    · obtain ⟨kind, -, reported⟩ := List.mem_flatMap.mp slots
      rcases List.mem_append.mp reported with bends | overflows
      · split_ifs at bends
        · rw [List.mem_singleton.mp bends]
          rfl
        · exact absurd bends List.not_mem_nil
      · exact isAboutNumbers_of_mem_indexByte overflows
    · exact isAboutNumbers_of_mem_indexByte own
    · exact ih later

theorem isAboutNumbers_of_mem_orderErrors {order : List Frame} {map : PatternMap} {e : PackError}
    (member : e ∈ (remapOrder order map).errors) : e.isAboutNumbers := by
  obtain ⟨packed, there, reported⟩ := List.mem_flatMap.mp member
  obtain ⟨frame, -, rfl⟩ := List.mem_map.mp there
  obtain ⟨v, -, overflows⟩ := List.mem_flatMap.mp reported
  exact isAboutNumbers_of_mem_indexByte overflows

theorem mem_packedSlots_iff {t : Track} {v : Voice} {slot : UInt8} :
    (v, slot) ∈ packedSlots t ↔ t.Packs v slot := by
  rw [mem_packedSlots, Track.mem_slots_iff, Track.Packs]

variable (p : Pool) (t : Track)

theorem mem_errors_packSong_iff {e : PackError} (about : e.isAboutNumbers = false) :
    e ∈ (p.packSong t).2.errors
      ↔ (∃ v slot, t.Packs v slot
          ∧ e ∈ (Bytecode.encode t (p.instrumentNumbers t) v.channel slot).errors)
        ∨ e = .noLoopPoint ∧ ∀ v slot, t.Packs v slot → t.loopsIn v.channel slot = 0 := by
  obtain ⟨map, parts⟩ := p.exists_errors_packSong t
  have instruments : e ∉ (internInstruments t.title (p.remapMacros t).2 (p.remapMacros t).1 0
      t.instruments).2.2 := fun member =>
    absurd (isAboutNumbers_of_mem_instrumentErrors member) (by simp [about])
  have order : e ∉ (remapOrder t.order map).errors := fun member =>
    absurd (isAboutNumbers_of_mem_orderErrors member) (by simp [about])
  rw [parts]
  simp only [List.mem_append, instruments, order, false_or, or_false, List.mem_flatMap,
    List.mem_ite_nil_right, List.mem_singleton, Prod.exists, Prod.forall, mem_packedSlots_iff]
  rw [and_comm (a := e = .noLoopPoint)]

theorem cellReport_mem_packSong_iff {e : PackError} {v : Voice} {slot : UInt8} {row : Nat}
    (about : e.cell? = some ⟨v.channel, slot, row⟩) :
    e ∈ (p.packSong t).2.errors
      ↔ t.Packs v slot ∧ row < t.patternLength
        ∧ e ∈ t.rowReports v.channel slot t.instruments.length row := by
  have numberless : e.isAboutNumbers = false := by
    cases e with
    | hiPitch => exact nomatch about
    | poolOverflow => exact nomatch about
    | _ => rfl
  have looped : e ≠ .noLoopPoint := by
    rintro rfl
    exact nomatch about
  rw [mem_errors_packSong_iff p t numberless]
  simp only [Bytecode.mem_errors_encode_iff _ _ _ _ about, length_instrumentNumbers, looped,
    false_and, or_false]
  constructor
  · rintro ⟨w, _, packed, same, rfl, inside, reported⟩
    obtain rfl : v = w := Option.some.inj <| by
      rw [← v.voice?_channel, same, w.voice?_channel]
    exact ⟨packed, inside, reported⟩
  · rintro ⟨packed, inside, reported⟩
    exact ⟨v, slot, packed, rfl, rfl, inside, reported⟩

theorem unknownInstrument_mem_packSong_iff (v : Voice) (slot : UInt8) (row : Nat)
    (number : UInt8) :
    .unknownInstrument ⟨v.channel, slot, row⟩ number ∈ (p.packSong t).2.errors
      ↔ t.Packs v slot ∧ row < t.patternLength
        ∧ (t.cell v.channel slot row).instrument = some number
        ∧ t.instruments.length ≤ number.toNat := by
  rw [cellReport_mem_packSong_iff p t rfl, Bytecode.unknownInstrument_mem_rowReports_iff]

/-- A song is reported for having no loop if no packed slot of a voice has a loop marker on one of
its rows. -/
theorem noLoopPoint_reported_iff :
    .noLoopPoint ∈ (p.packSong t).2.errors
      ↔ ∀ v slot, t.Packs v slot → ∀ row < t.patternLength,
          ∀ e ∈ (t.cell v.channel slot row).effects, e.code ≠ loopLetter := by
  have elsewhere (v : Voice) (slot : UInt8) :
      .noLoopPoint ∉ (Bytecode.encode t (p.instrumentNumbers t) v.channel slot).errors := by
    intro member
    obtain ⟨place, about⟩ := Bytecode.exists_cell?_of_mem_errors_encode _ _ _ _ member rfl
    exact nomatch about
  rw [mem_errors_packSong_iff p t rfl]
  simp only [elsewhere, and_false, exists_false, false_or, true_and, Track.loopsIn_eq_zero_iff]

/-- The only loop marker is in a slot below the one that the order names. -/
def unplayedLoop : Track :=
  { Track.new "unplayed" with
    patternLength := 1
    order := [⟨1, 0, 0, 0, 0⟩]
    patterns := [⟨[Pattern.emptyRow.set .pulse1 ⟨.blank, none, none, [⟨loopLetter, 0⟩]⟩]⟩] }

theorem unplayed_loop_is_enough :
    seeded.Reachable ∧ unplayedLoop.VolumesInRange
      ∧ (∀ frame ∈ unplayedLoop.order, ∀ v ∈ Voice.all, ∀ row < unplayedLoop.patternLength,
        ∀ e ∈ (unplayedLoop.cell v.channel (frame.get v.channel) row).effects,
          e.code ≠ loopLetter)
      ∧ .noLoopPoint ∉ (seeded.packSong unplayedLoop).2.errors :=
  ⟨.seeded, by decide, by decide, by decide⟩

open Export

/-- An instrument number is reported where a packed row names it, if it is above all that the file
defines. -/
theorem unknownInstrument_reported_iff (text : String) (wanted : Nat) (v : Voice) (slot : UInt8)
    (row : Nat) (number : UInt8) :
    let t := (load text wanted).value
    .unknownInstrument ⟨v.channel, slot, row⟩ number ∈ (p.packSong t).2.errors
      ↔ t.Packs v slot ∧ row < t.patternLength
        ∧ (t.cell v.channel slot row).instrument = some number
        ∧ ∀ line ∈ Text.lines text, ∀ defined ∈ definedInstrument? line,
          defined < number.toNat := by
  intro t
  rw [unknownInstrument_mem_packSong_iff, length_instruments_le_iff]

/-- A row names instrument 0, and the file defines instrument 1 only. -/
def gappedInstruments : String :=
  "INST2A03 1 -1 -1 -1 -1 -1 \"\"\nTRACK 1 6 150\nORDER 0 : 0 0 0 0 0\n"
    ++ "ROW 0 : ... 00 . : ... .. . : ... .. . : ... .. . : ... .. ."

theorem gap_in_instruments_unreported :
    let t := (load gappedInstruments 1).value
    seeded.Reachable
      ∧ (∀ line ∈ Text.lines gappedInstruments, definedInstrument? line ≠ some 0)
      ∧ (∃ frame ∈ t.order, frame.get .pulse1 = 0) ∧ 0 < t.patternLength
      ∧ (t.cell .pulse1 0 0).instrument = some 0
      ∧ .unknownInstrument ⟨.pulse1, 0, 0⟩ 0 ∉ (seeded.packSong t).2.errors :=
  ⟨.seeded, by decide +kernel⟩

end Pool

end TuneBank
