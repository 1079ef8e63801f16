import TuneBank.Proofs.Stream.Playback

/-! What is reported of a pattern, said cell by cell. A report about a column looks at nothing but
its cell, except that a loop marker is compared with the effects before it in the pattern. The
encoder passes over an instrument that was written last; it only ever writes those that the map
knows, so no report is lost by that. -/

namespace TuneBank

def PackError.cell? : PackError → Option Location
  | duplicateLoop place | nonZeroParam place _ | unknownEffect place _ | release place
  | noteOutOfRange place _ | unknownInstrument place _ => some place
  | _ => none

theorem PackError.isSkipOverflow_of_cell? {e : PackError} {place : Location}
    (about : e.cell? = some place) : e.isSkipOverflow = false := by
  cases e with
  | tooManySkips => exact nomatch about
  | tooManySkipsAtEnd => exact nomatch about
  | _ => rfl

/-- The byte that a note would be played by, before any limit. -/
def Note.pitch? : Note → Option Nat
  | .tone octave semitone => some (Bytecode.tonePitch octave semitone)
  | .noise period => some (Bytecode.noisePitch period)
  | _ => none

namespace Bytecode

def effectReports (place : Location) (before : List Effect) (e : Effect) : List PackError :=
  (if e.code ∈ [loopLetter, breakLetter, speedLetter] then [] else [.unknownEffect place e])
  ++ (if e.code = loopLetter ∧ ∃ earlier ∈ before, earlier.code = loopLetter then
      [.duplicateLoop place] else [])
  ++ (if e.code = breakLetter ∧ e.param ≠ 0 then [.nonZeroParam place e] else [])

/-- What is wrong with an instrument column, if the numbers below `known` are in the map. -/
def instrumentReports (place : Location) (known : Nat) (instrument : Option UInt8) :
    List PackError :=
  ((instrument.filter fun number => known ≤ number.toNat).map
    (PackError.unknownInstrument place)).toList

def noteReports (place : Location) (note : Note) : List PackError :=
  (if note = .release then [.release place] else [])
  ++ if ∃ pitch ∈ note.pitch?, Code.volume.toNat ≤ pitch then [.noteOutOfRange place note] else []

/-- What is wrong with a cell that comes after some effects in its pattern. -/
def cellReports (place : Location) (known : Nat) (before : List Effect) (cell : Cell) :
    List PackError :=
  (cell.effects.zipIdx.flatMap fun (e, column) =>
      effectReports place (before ++ cell.effects.take column) e)
  ++ instrumentReports place known cell.instrument ++ noteReports place cell.note

end Bytecode

namespace Track
variable (t : Track) (c : Channel) (slot : UInt8)

def effectsAbove (row : Nat) : List Effect :=
  (List.range row).flatMap fun i => (t.cell c slot i).effects

theorem effectsAbove_succ (row : Nat) :
    t.effectsAbove c slot (row + 1) = t.effectsAbove c slot row ++ (t.cell c slot row).effects := by
  simp [effectsAbove, List.range_succ]

/-- What is wrong with a row of a slot. -/
def rowReports (known row : Nat) : List PackError :=
  Bytecode.cellReports ⟨c, slot, row⟩ known (t.effectsAbove c slot row) (t.cell c slot row)

end Track

namespace Bytecode

theorem countLoops_append (es fs : List Effect) :
    countLoops (es ++ fs) = countLoops es + countLoops fs :=
  List.countP_append

theorem countLoops_eq_zero_iff {es : List Effect} :
    countLoops es = 0 ↔ ∀ e ∈ es, e.code ≠ loopLetter := by
  simp [countLoops, List.countP_eq_zero]

theorem errors_codeEffect (place : Location) (before : List Effect) (e : Effect) :
    (codeEffect place (countLoops before) e).errors = effectReports place before e := by
  have marked : (∃ earlier ∈ before, earlier.code = loopLetter) ↔ countLoops before ≠ 0 := by
    simp [countLoops_eq_zero_iff]
  have apart : loopLetter ≠ breakLetter ∧ loopLetter ≠ speedLetter ∧ breakLetter ≠ speedLetter := by
    decide
  simp only [effectReports, codeEffect, List.mem_cons, List.not_mem_nil, or_false, marked]
  split_ifs <;> simp_all [Coded.ofToken, Coded.refused]

theorem errors_codeEffects (place : Location) (before es : List Effect) :
    (codeEffects place (countLoops before) es).errors
      = es.zipIdx.flatMap fun (e, column) =>
          effectReports place (before ++ es.take column) e := by
  induction es generalizing before with
  | nil => rfl
  | cons e es ih =>
    have rest := ih (before ++ [e])
    rw [countLoops_append] at rest
    rw [codeEffects, Coded.errors_append, errors_codeEffect, rest, List.zipIdx_cons,
      List.flatMap_cons, List.zipIdx_succ, List.flatMap_map]
    simp

theorem errors_codeVolume (s : Running) (volume : Option UInt8) :
    (s.codeVolume volume).errors = [] := by
  cases volume with
  | none => rfl
  | some level =>
    rw [Running.codeVolume]
    split_ifs <;> rfl

theorem errors_codeNote (place : Location) (note : Note) :
    (codeNote place note).errors = noteReports place note := by
  have limited (pitch : Nat) (own : note.pitch? = some pitch) (sounds : note ≠ .release)
      (plays : playable place note = if pitch ≥ Code.volume.toNat then
        .refused (.noteOutOfRange place note) else .pitch (UInt8.ofNat pitch)) :
      (codeNote place note).errors = noteReports place note := by
    rw [codeNote, plays, noteReports, if_neg sounds, own]
    by_cases high : Code.volume.toNat ≤ pitch <;>
      simp [high, Coded.refused, Coded.ofToken]
  cases note with
  | blank => rfl
  | halt => rfl
  | release => rfl
  | tone octave semitone => exact limited _ rfl Note.noConfusion rfl
  | noise period => exact limited _ rfl Note.noConfusion rfl

variable {map : List UInt8} {s : Running}

theorem errors_codeInstrument
    (known : ∀ number, s.instrument = some number → number.toNat < map.length) (place : Location)
    (instrument : Option UInt8) :
    (s.codeInstrument map place instrument).errors
      = instrumentReports place map.length instrument := by
  cases instrument with
  | none => rfl
  | some number =>
    rw [Running.codeInstrument, instrumentReports, Option.filter_some]
    by_cases inside : number.toNat < map.length
    · rw [List.getElem?_eq_getElem inside]
      simp only [Nat.not_le.mpr inside, decide_false, Bool.false_eq_true, if_false]
      split_ifs <;> rfl
    · have fresh : s.instrument ≠ some number := fun same => inside (known number same)
      rw [if_neg fresh, List.getElem?_eq_none (Nat.le_of_not_lt inside)]
      simp [Nat.le_of_not_lt inside, Coded.refused]

structure Running.Below (s : Running) (known : Nat) (before : List Effect) : Prop where
  instrument : ∀ number, s.instrument = some number → number.toNat < known
  loops : s.loops = countLoops before

theorem Running.below_start (known : Nat) : start.Below known [] :=
  ⟨fun _ h => (nomatch h), rfl⟩

variable {before : List Effect}

theorem Running.Below.after (below : s.Below map.length before) (cell : Cell) :
    (s.after map cell).Below map.length (before ++ cell.effects) where
  instrument number held := by
    rcases Option.or_eq_some_iff.mp held with authored | ⟨-, earlier⟩
    · simpa using (Option.filter_eq_some_iff.mp authored).2
    · exact below.instrument number earlier
  loops := by rw [countLoops_append, ← below.loops, Running.after]

theorem Running.Below.errors_codeCell (below : s.Below map.length before) (place : Location)
    (cell : Cell) :
    (s.codeCell map place cell).errors = cellReports place map.length before cell := by
  simp only [Running.codeCell, Coded.errors_append, below.loops, errors_codeEffects,
    errors_codeVolume, errors_codeInstrument below.instrument, errors_codeNote, cellReports,
    List.append_nil]

theorem cell?_of_mem_cellReports {place : Location} {known : Nat} {cell : Cell} {e : PackError}
    (member : e ∈ cellReports place known before cell) : e.cell? = some place := by
  simp only [cellReports, effectReports, instrumentReports, noteReports, List.mem_append,
    List.mem_flatMap, List.mem_ite_nil_left, List.mem_ite_nil_right, List.mem_singleton,
    Option.mem_toList, Option.map_eq_some_iff] at member
  rcases member with ((⟨_, -, (⟨-, rfl⟩ | ⟨-, rfl⟩) | ⟨-, rfl⟩⟩ | ⟨_, -, rfl⟩)
    | ⟨-, rfl⟩ | ⟨-, rfl⟩) <;> rfl

theorem filter_cellReports (place : Location) (known : Nat) (before : List Effect) (cell : Cell) :
    (cellReports place known before cell).filter (fun e => !e.isSkipOverflow)
      = cellReports place known before cell := by
  refine List.filter_eq_self.mpr fun e member => ?_
  rw [PackError.isSkipOverflow_of_cell? (cell?_of_mem_cellReports member), Bool.not_false]

theorem filter_gapReport (place : Location) (cut : Option Nat) :
    (cut.map (PackError.tooManySkips place)).toList.filter (fun e => !e.isSkipOverflow) = [] := by
  cases cut <;> rfl

theorem filter_endReport (c : Channel) (slot : UInt8) (cut : Option Nat) :
    (cut.map (PackError.tooManySkipsAtEnd c slot)).toList.filter (fun e => !e.isSkipOverflow)
      = [] := by
  cases cut <;> rfl

section
variable {t : Track} {c : Channel} {slot : UInt8}

theorem filter_errors_writeCells (rows : Nat) (row : Nat)
    (below : s.Below map.length (t.effectsAbove c slot row)) (w : SkipWriter Token) :
    (writeCells map c slot row s w ((List.range' row rows).map (t.cell c slot))).2.filter
        (fun e => !e.isSkipOverflow)
      = (List.range' row rows).flatMap (t.rowReports c slot map.length) := by
  induction rows generalizing row s w with
  | zero => rfl
  | succ rows ih =>
    have next := below.after (t.cell c slot row)
    rw [← t.effectsAbove_succ c slot row] at next
    rw [List.range'_succ, List.map_cons, List.flatMap_cons, Track.rowReports]
    by_cases none : (s.codeCell map ⟨c, slot, row⟩ (t.cell c slot row)).tokens = []
    · rw [writeCells_cons_of_silent none, List.filter_append, below.errors_codeCell,
        filter_cellReports, ih (row + 1) next]
    · rw [writeCells_cons_of_tokens none rfl, List.filter_append, List.filter_append,
        below.errors_codeCell, filter_cellReports, filter_gapReport, List.append_nil,
        ih (row + 1) next]

end

variable (t : Track) (map : List UInt8) (c : Channel) (slot : UInt8)

theorem filter_errors_encode :
    (encode t map c slot).errors.filter (fun e => !e.isSkipOverflow)
      = (List.range t.patternLength).flatMap (t.rowReports c slot map.length) := by
  have start : Running.start.Below map.length (t.effectsAbove c slot 0) :=
    Running.below_start map.length
  have rows := filter_errors_writeCells t.patternLength 0 start .new
  rw [← List.range_eq_range', ← Track.column_eq_map] at rows
  rw [encode, List.filter_append, filter_endReport, List.append_nil, rows]

theorem loops_encode :
    (encode t map c slot).value.loops = countLoops (t.effectsAbove c slot t.patternLength) := by
  rw [encode, Track.column_eq_map, List.flatMap_map]
  rfl

/-- The columns of a pattern are reported row by row and in the order effects, instrument, note, and
the loop markers are counted. -/
theorem encode_reports_columns :
    (encode t map c slot).errors.filter (fun e => !e.isSkipOverflow)
        = (List.range t.patternLength).flatMap (t.rowReports c slot map.length)
      ∧ (encode t map c slot).value.loops
        = countLoops (t.effectsAbove c slot t.patternLength) :=
  ⟨filter_errors_encode t map c slot, loops_encode t map c slot⟩

theorem mem_errors_encode_iff {e : PackError} {place : Location} (about : e.cell? = some place) :
    e ∈ (encode t map c slot).errors
      ↔ place.channel = c ∧ place.slot = slot ∧ place.row < t.patternLength
        ∧ e ∈ t.rowReports c slot map.length place.row := by
  have column := PackError.isSkipOverflow_of_cell? about
  have kept : e ∈ (encode t map c slot).errors
      ↔ e ∈ (encode t map c slot).errors.filter (fun e => !e.isSkipOverflow) := by
    simp [column]
  rw [kept, filter_errors_encode, List.mem_flatMap]
  constructor
  · rintro ⟨row, inside, member⟩
    obtain rfl := Option.some.inj (about.symm.trans (cell?_of_mem_cellReports member))
    exact ⟨rfl, rfl, List.mem_range.mp inside, member⟩
  · rintro ⟨-, -, inside, member⟩
    exact ⟨place.row, List.mem_range.mpr inside, member⟩

theorem exists_cell?_of_mem_errors_encode {e : PackError}
    (member : e ∈ (encode t map c slot).errors) (column : e.isSkipOverflow = false) :
    ∃ place, e.cell? = some place := by
  have kept : e ∈ (encode t map c slot).errors.filter (fun e => !e.isSkipOverflow) :=
    List.mem_filter.mpr ⟨member, by simp [column]⟩
  rw [filter_errors_encode] at kept
  obtain ⟨row, -, reported⟩ := List.mem_flatMap.mp kept
  exact ⟨_, cell?_of_mem_cellReports reported⟩

theorem unknownInstrument_mem_rowReports_iff {known row : Nat} {number : UInt8} :
    .unknownInstrument ⟨c, slot, row⟩ number ∈ t.rowReports c slot known row
      ↔ (t.cell c slot row).instrument = some number ∧ known ≤ number.toNat := by
  simp [Track.rowReports, cellReports, effectReports, instrumentReports, noteReports,
    Option.filter_eq_some_iff]

end Bytecode

end TuneBank
