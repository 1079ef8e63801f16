import TuneBank.Proofs.Export.Decode

/-! What an import makes of the lines of a file in print. Things that are numbered one after another
are appended one after another (`readRecords_numbered`), and the sections of other tracks are passed
over. -/

namespace TuneBank

theorem setGrowing_length {α : Type} (filler : α) (l : List α) (a : α) :
    setGrowing filler l l.length a = l ++ [a] := by
  have one : l.length + 1 - l.length = 1 := by omega
  rw [setGrowing, one, List.replicate_one, List.set_append_right _ _ (Nat.le_refl _), Nat.sub_self]
  rfl

theorem modify_concat_length {α : Type} (f : α → α) (l : List α) (a : α) :
    (l ++ [a]).modify l.length f = l ++ [f a] := by
  induction l with
  | nil => rfl
  | cons b l ih => rw [List.cons_append, List.length_cons, List.modify_succ_cons, ih]; rfl

namespace Export

open List (Forall₂)

namespace Import

def readRecord (wanted : Nat) (s : Import) (line : Nat) (r : Record) : Import :=
  if s.passesOver wanted r.kind then s else s.apply wanted line r

def readRecords (wanted : Nat) (s : Import) : Nat → List Record → Import
  | _, [] => s
  | n, r :: rs => (s.readRecord wanted n r).readRecords wanted (n + 1) rs

variable {wanted : Nat}

theorem readRecords_append (s : Import) (n : Nat) (first second : List Record) :
    s.readRecords wanted n (first ++ second)
      = (s.readRecords wanted n first).readRecords wanted (n + first.length) second := by
  induction first generalizing s n with
  | nil => rfl
  | cons r first ih =>
    rw [List.cons_append, readRecords, readRecords, ih, List.length_cons]
    congr 1
    omega

theorem readLines_of_prints {rs : List Record} {lines : List String} (h : Forall₂ Prints rs lines)
    (fits : ∀ r ∈ rs, r.Printable) (s : Import) (n : Nat) :
    s.readLines wanted n lines = s.readRecords wanted n rs := by
  induction h generalizing s n with
  | nil => rfl
  | cons printed _ ih =>
    obtain ⟨first, later⟩ := List.forall_mem_cons.mp fits
    rw [readLines, readRecords, ih later, readLine, (decode_of_prints printed first).1]
    rfl

theorem readRecord_of_unsectioned {s : Import} {n : Nat} {r : Record}
    (h : r.kind.isSectioned = false) : s.readRecord wanted n r = s.apply wanted n r := by
  rw [readRecord, passesOver, h]
  rfl

theorem readRecord_of_wanted {s : Import} (h : s.tracksSeen = wanted) (n : Nat) (r : Record) :
    s.readRecord wanted n r = s.apply wanted n r := by
  rw [readRecord, passesOver, h, bne_self_eq_false, Bool.and_false]
  rfl

theorem readRecords_numbered {α : Type} {records : Nat → α → List Record} {as : List α}
    (state : List α → Import)
    (step : ∀ done a n, done ++ [a] <+: as →
      (state done).readRecords wanted n (records done.length a) = state (done ++ [a])) (n : Nat) :
    (state []).readRecords wanted n (numbered records 0 as) = state as := by
  -- what was read is in the state already, so the induction is on what is left
  suffices rest : ∀ (later done : List α) (n : Nat), done ++ later = as →
      (state done).readRecords wanted n (numbered records done.length later) = state as from
    rest as [] n rfl
  intro later
  induction later with
  | nil =>
    intro done n all
    rw [← all, List.append_nil]
    rfl
  | cons a later ih =>
    intro done n all
    rw [List.append_cons] at all
    have here : done ++ [a] <+: as := ⟨later, all⟩
    have next := ih (done ++ [a]) (n + (records done.length a).length) all
    rw [List.length_append, List.length_singleton] at next
    rw [numbered, readRecords_append, step done a n here, next]

/-! Macros -/

theorem ofAuthored_of_exportable {m : Macro} (exportable : m.Exportable) (kind : MacroKind) :
    Macro.ofAuthored kind m.ticks (some m.loopPoint) = m := by
  have looped := exportable.looped
  have some : m.ticks.isEmpty = false := by
    cases ticks : m.ticks with
    | nil => simp [ticks] at looped
    | cons => rfl
  rw [Macro.ofAuthored, some, List.take_of_length_le exportable.short]
  simp [Option.filter_some, looped]

theorem readMacro_of_exportable {m : Macro} (exportable : m.Exportable) (s : Import) (line : Nat)
    (kind : MacroKind) (i : UInt8) :
    s.readMacro line ⟨kind, i, m.loopPoint.toNat, -1, 0, m.ticks⟩
      = { s with track := s.track.setMacro kind i.toNat m } := by
  let r : MacroRecord := ⟨kind, i, m.loopPoint.toNat, -1, 0, m.ticks⟩
  have kept : r.kept = m.ticks := List.take_of_length_le exportable.short
  have noMarker : r.holdsMarker = false := by
    simpa [r, MacroRecord.holdsMarker] using fun member => exportable.noMarker _ member rfl
  have loopPoint : r.loopPoint? = some m.loopPoint := by
    have inside : 0 ≤ (m.loopPoint.toNat : Int) ∧ (m.loopPoint.toNat : Int) < m.ticks.length :=
      ⟨Int.natCast_nonneg _, Int.ofNat_lt.mpr exportable.looped⟩
    rw [MacroRecord.loopPoint?, kept, if_pos inside]
    simp [r]
  have short : ¬ r.values.length > Macro.maxLength := Nat.not_lt.mpr exportable.short
  have clean : r.errors line = [] := by
    simp [MacroRecord.errors, r, noMarker, loopPoint, short]
  have accepted : r.accepted? = some m := by
    rw [MacroRecord.accepted?, noMarker, loopPoint]
    exact congrArg some (ofAuthored_of_exportable exportable kind)
  change s.readMacro line r = _
  rw [readMacro, clean, accepted]
  simp [report, r]

theorem toNat_ofNat_of_next {α : Type} {done as : List α} {a : α} (h : done ++ [a] <+: as)
    (few : as.length ≤ 256) : (UInt8.ofNat done.length).toNat = done.length := by
  have length := h.length_le
  rw [List.length_append, List.length_singleton] at length
  exact UInt8.toNat_ofNat_of_lt' (Nat.lt_of_lt_of_le length few)

theorem mem_of_next {α : Type} {done as : List α} {a : α} (h : done ++ [a] <+: as) : a ∈ as :=
  h.subset (List.mem_append_right _ (List.mem_singleton_self a))

def withMacros (s : Import) (kind : MacroKind) (ms : List Macro) : Import :=
  { s with track := { s.track with macros := s.track.macros.set kind ms } }

theorem readRecords_macros {s : Import} {kind : MacroKind} {ms : List Macro}
    (none : s.track.macros.get kind = []) (few : ms.length ≤ 256)
    (exportable : ∀ m ∈ ms, m.Exportable) (n : Nat) :
    s.readRecords wanted n (numbered (macroRecords kind) 0 ms) = s.withMacros kind ms := by
  have start : s.withMacros kind [] = s := by rw [withMacros, ← none, PerKind.set_get]
  have step : ∀ done m n, done ++ [m] <+: ms → (s.withMacros kind done).readRecords wanted n
      (macroRecords kind done.length m) = s.withMacros kind (done ++ [m]) := by
    intro done m n here
    have same : (s.withMacros kind done).track.macros.get kind = done := by
      rw [withMacros, PerKind.get_set, if_pos rfl]
    rw [macroRecords, readRecords, readRecords, readRecord_of_unsectioned rfl, apply,
      readMacro_of_exportable (exportable m (mem_of_next here)), toNat_ofNat_of_next here few,
      Track.setMacro, same, setGrowing_length, withMacros, withMacros, PerKind.set_set]
  have main := readRecords_numbered (s.withMacros kind) step n
  rwa [start] at main

theorem readRecords_kinds {macros : PerKind (List Macro)}
    (few : ∀ kind, (macros.get kind).length ≤ 256)
    (exportable : ∀ kind, ∀ m ∈ macros.get kind, m.Exportable) (kinds : List MacroKind)
    (distinct : kinds.Nodup) (s : Import) (none : ∀ kind ∈ kinds, s.track.macros.get kind = [])
    (n : Nat) :
    s.readRecords wanted n
        (kinds.flatMap fun kind => numbered (macroRecords kind) 0 (macros.get kind))
      = kinds.foldl (fun s kind => s.withMacros kind (macros.get kind)) s := by
  induction kinds generalizing s n with
  | nil => rfl
  | cons kind kinds ih =>
    obtain ⟨fresh, distinct⟩ := List.nodup_cons.mp distinct
    rw [List.flatMap_cons, readRecords_append, readRecords_macros (none kind List.mem_cons_self)
      (few kind) (exportable kind), List.foldl_cons]
    refine ih distinct _ (fun other member => ?_) _
    have apart : other ≠ kind := fun same => fresh (same ▸ member)
    rw [withMacros, PerKind.get_set, if_neg apart]
    exact none other (List.mem_cons_of_mem kind member)

theorem readRecords_allMacros {macros : PerKind (List Macro)}
    (few : ∀ kind, (macros.get kind).length ≤ 256)
    (exportable : ∀ kind, ∀ m ∈ macros.get kind, m.Exportable) {s : Import}
    (none : s.track.macros = ⟨[], [], [], [], []⟩) (n : Nat) :
    s.readRecords wanted n (MacroKind.all.flatMap fun kind =>
        numbered (macroRecords kind) 0 (macros.get kind))
      = { s with track := { s.track with macros := macros } } := by
  rw [readRecords_kinds few exportable MacroKind.all (by decide) s
    (fun kind _ => by rw [none]; cases kind <;> rfl)]
  rfl

/-! Instruments and the order -/

theorem readRecords_instruments {s : Import} {is : List Instrument}
    (none : s.track.instruments = []) (few : is.length ≤ 256) (n : Nat) :
    s.readRecords wanted n (numbered instrumentRecords 0 is)
      = { s with track := { s.track with instruments := is } } := by
  let state (done : List Instrument) : Import :=
    { s with track := { s.track with instruments := done } }
  have start : state [] = s := by simp only [state, ← none]
  have step : ∀ done i n, done ++ [i] <+: is → (state done).readRecords wanted n
      (instrumentRecords done.length i) = state (done ++ [i]) := by
    intro done i n here
    rw [instrumentRecords, readRecords, readRecords, readRecord_of_unsectioned rfl, apply,
      toNat_ofNat_of_next here few, Track.setInstrument, setGrowing_length]
  have main := readRecords_numbered state step n
  rwa [start] at main

theorem readRecords_frames {s : Import} {frames : List Frame} (seen : s.tracksSeen = wanted)
    (none : s.track.order = []) (few : frames.length ≤ 256) (n : Nat) :
    s.readRecords wanted n (numbered frameRecords 0 frames)
      = { s with track := { s.track with order := frames } } := by
  let state (done : List Frame) : Import := { s with track := { s.track with order := done } }
  have start : state [] = s := by simp only [state, ← none]
  have step : ∀ done frame n, done ++ [frame] <+: frames → (state done).readRecords wanted n
      (frameRecords done.length frame) = state (done ++ [frame]) := by
    intro done frame n here
    rw [frameRecords, readRecords, readRecords, readRecord_of_wanted (by exact seen), apply,
      toNat_ofNat_of_next here few, Track.setFrame, setGrowing_length]
  have main := readRecords_numbered state step n
  rwa [start] at main

/-! Patterns -/

def withPatterns (s : Import) (ps : List Pattern) : Import :=
  { s with
    track := { s.track with patterns := ps }
    slot := if ps.isEmpty then s.slot else UInt8.ofNat (ps.length - 1) }

/-- The pattern as far as its first rows are read. -/
def partialPattern (length : Nat) (rows : List (PerChannel Cell)) : Pattern :=
  ⟨rows ++ List.replicate (length - rows.length) Pattern.emptyRow⟩

theorem partialPattern_setRow {length : Nat} {rows : List (PerChannel Cell)}
    (short : rows.length < length) (cells : PerChannel Cell) :
    (partialPattern length rows).setRow rows.length cells
      = partialPattern length (rows ++ [cells]) := by
  have left : length - rows.length = (length - (rows.length + 1)) + 1 := by omega
  rw [partialPattern, partialPattern, Pattern.setRow, Pattern.mk.injEq,
    List.set_append_right _ _ (Nat.le_refl _), Nat.sub_self, left, List.replicate_succ,
    List.set_cons_zero, List.length_append, List.length_singleton, List.append_assoc]
  rfl

theorem partialPattern_cells {length : Nat} {p : Pattern} (full : p.rows = length) :
    partialPattern length p.cells = p := by
  have none : length - p.cells.length = 0 := Nat.sub_eq_zero_of_le (Nat.le_of_eq full.symm)
  rw [partialPattern, none, List.replicate_zero, List.append_nil]

theorem ensureSlot_of_lt {t : Track} {slot : UInt8} (h : slot.toNat < t.patterns.length) :
    t.ensureSlot slot = t := by
  have none : slot.toNat + 1 - t.patterns.length = 0 := Nat.sub_eq_zero_of_le h
  rw [Track.ensureSlot, none, List.replicate_zero, List.append_nil]

theorem ensureSlot_of_eq {t : Track} {slot : UInt8} (h : slot.toNat = t.patterns.length) :
    t.ensureSlot slot = { t with patterns := t.patterns ++ [.empty t.patternLength] } := by
  have one : slot.toNat + 1 - t.patterns.length = 1 := by omega
  rw [Track.ensureSlot, one, List.replicate_one]

theorem readRow_ensureSlot (s : Import) (line row : Nat) (cells : PerChannel Cell) :
    s.readRow line row cells []
      = { s with track := s.track.ensureSlot s.slot }.readRow line row cells [] := by
  have again : (s.track.ensureSlot s.slot).ensureSlot s.slot = s.track.ensureSlot s.slot := by
    refine ensureSlot_of_lt ?_
    rw [Track.ensureSlot, List.length_append, List.length_replicate]
    omega
  simp only [readRow, report, List.map_nil, again]

def withRows (s : Import) (done : List Pattern) (rows : List (PerChannel Cell)) : Import :=
  { s with
    track := { s.track with
      patterns := done ++ [partialPattern s.track.patternLength rows] }
    slot := UInt8.ofNat done.length }

section
variable {s : Import} {done : List Pattern} (small : (UInt8.ofNat done.length).toNat = done.length)
include small

theorem readRow_withRows {rows : List (PerChannel Cell)}
    (short : rows.length < s.track.patternLength) (line : Nat) (cells : PerChannel Cell) :
    (s.withRows done rows).readRow line rows.length cells []
      = s.withRows done (rows ++ [cells]) := by
  have ensured : (s.withRows done rows).track.ensureSlot (s.withRows done rows).slot
      = (s.withRows done rows).track := ensureSlot_of_lt (by simp [withRows, small])
  have count : (s.withRows done rows).track.slotRows (s.withRows done rows).slot
      = s.track.patternLength := by
    simp only [withRows, Track.slotRows, Track.pattern?, small, List.getElem?_concat_length,
      Option.map_some, Option.getD_some, Pattern.rows, partialPattern, List.length_append,
      List.length_replicate]
    omega
  have written : (s.withRows done rows).track.modifySlot (s.withRows done rows).slot
      (·.setRow rows.length cells) = (s.withRows done (rows ++ [cells])).track := by
    simp only [withRows, Track.modifySlot, small]
    rw [modify_concat_length, partialPattern_setRow short]
  have silent : (s.withRows done rows).report [] = s.withRows done rows := by
    rw [report, List.append_nil]
  rw [readRow, List.map_nil, silent, ensured, count, if_pos short, written]
  rfl

theorem readRecords_rows {rows : List (PerChannel Cell)} (seen : s.tracksSeen = wanted)
    (full : rows.length = s.track.patternLength) (n : Nat) :
    (s.withRows done []).readRecords wanted n (numbered rowRecords 0 rows)
      = s.withRows done rows := by
  refine readRecords_numbered (s.withRows done) (fun read cells n here => ?_) n
  have short := here.length_le
  rw [List.length_append, List.length_singleton, full] at short
  rw [rowRecords, readRecords, readRecords, readRecord_of_wanted (by exact seen)]
  exact readRow_withRows small short n cells

theorem readRecords_pattern {p : Pattern} (seen : s.tracksSeen = wanted)
    (full : p.rows = s.track.patternLength) (some : 1 ≤ s.track.patternLength) (n : Nat) :
    (s.withPatterns done).readRecords wanted n (patternRecords done.length p)
      = s.withPatterns (done ++ [p]) := by
  let selected : Import := { s.withPatterns done with slot := UInt8.ofNat done.length }
  have select : (s.withPatterns done).readRecord wanted n
      (.patternSelect (UInt8.ofNat done.length)) = selected :=
    readRecord_of_wanted (by exact seen) n _
  -- selecting a slot makes no pattern: its first row does, so there has to be one
  have made : selected.track.ensureSlot selected.slot = (s.withRows done []).track :=
    ensureSlot_of_eq small
  have first (line : Nat) (cells : PerChannel Cell) :
      selected.readRecords wanted line (rowRecords 0 cells)
        = (s.withRows done []).readRecords wanted line (rowRecords 0 cells) := by
    rw [rowRecords, readRecords, readRecords, readRecords, readRecords,
      readRecord_of_wanted (by exact seen), readRecord_of_wanted (by exact seen)]
    exact (readRow_ensureSlot selected line 0 cells).trans (by rw [made]; rfl)
  have rows : selected.readRecords wanted (n + 1) (numbered rowRecords 0 p.cells)
      = (s.withRows done []).readRecords wanted (n + 1) (numbered rowRecords 0 p.cells) := by
    cases cells : p.cells with
    | nil =>
      rw [Pattern.rows, cells, List.length_nil] at full
      omega
    | cons c cs => rw [numbered, readRecords_append, readRecords_append, first]
  have last : s.withRows done p.cells = s.withPatterns (done ++ [p]) := by
    rw [withRows, withPatterns, partialPattern_cells full, List.length_append,
      List.length_singleton, Nat.add_sub_cancel]
    simp
  rw [patternRecords, readRecords, select, rows, readRecords_rows small seen full, last]

end

theorem readRecords_patterns {s : Import} {ps : List Pattern} (seen : s.tracksSeen = wanted)
    (none : s.track.patterns = []) (few : ps.length ≤ 256)
    (full : ∀ p ∈ ps, p.rows = s.track.patternLength) (some : 1 ≤ s.track.patternLength) (n : Nat) :
    s.readRecords wanted n (numbered patternRecords 0 ps) = s.withPatterns ps := by
  have start : s.withPatterns [] = s := by
    have same : { s.track with patterns := [] } = s.track := by rw [← none]
    rw [withPatterns, same]
    rfl
  have main := readRecords_numbered s.withPatterns (fun done p n here =>
    readRecords_pattern (toNat_ofNat_of_next here few) seen (full p (mem_of_next here)) some n) n
  rwa [start] at main

theorem finish_of_found {s : Import} (titled : s.titled = true) (silent : s.errors = [])
    (found : wanted ≤ s.tracksSeen) : s.finish wanted = ⟨s.track, []⟩ := by
  rw [finish, titled, silent, if_neg (Nat.not_lt.mpr found)]
  rfl

/-! Sections -/

theorem readRecords_passedOver {s : Import} {rs : List Record}
    (sectioned : ∀ r ∈ rs, r.kind.isSectioned = true) (other : s.tracksSeen ≠ wanted) (n : Nat) :
    s.readRecords wanted n rs = s := by
  induction rs generalizing n with
  | nil => rfl
  | cons r rs ih =>
    obtain ⟨first, later⟩ := List.forall_mem_cons.mp sectioned
    have passed : s.passesOver wanted r.kind = true := by
      rw [passesOver, first, bne_iff_ne.mpr other]
      rfl
    rw [readRecords, readRecord, if_pos passed, ih later]

theorem readRecords_otherSection {s : Import} (sec : Section) (other : s.tracksSeen + 1 ≠ wanted)
    (n : Nat) :
    s.readRecords wanted n sec.records = { s with tracksSeen := s.tracksSeen + 1 } := by
  have header : s.readRecord wanted n (.trackHeader sec.patternLength sec.speed
      Track.requiredTempo sec.name) = { s with tracksSeen := s.tracksSeen + 1 } := by
    rw [readRecord_of_unsectioned rfl, apply, readTrackHeader]
    exact if_neg other
  rw [Section.records, readRecords, header]
  exact readRecords_passedOver (fun r member => isSectioned_of_mem_section member) other _

theorem readRecords_otherSections (secs : List Section) (s : Import)
    (other : ∀ i < secs.length, s.tracksSeen + (i + 1) ≠ wanted) (n : Nat) :
    s.readRecords wanted n (secs.flatMap Section.records)
      = { s with tracksSeen := s.tracksSeen + secs.length } := by
  induction secs generalizing s n with
  | nil => rfl
  | cons sec secs ih =>
    rw [List.flatMap_cons, readRecords_append,
      readRecords_otherSection sec (other 0 (Nat.succ_pos _)), ih]
    · rw [List.length_cons]
      simp only [Nat.add_assoc, Nat.add_comm 1]
    · intro i bound
      have apart := other (i + 1) (Nat.succ_lt_succ bound)
      change s.tracksSeen + 1 + (i + 1) ≠ wanted
      omega

theorem readRecords_wantedSection {s : Import} {sec : Section} (exportable : sec.Exportable)
    (noOrder : s.track.order = []) (noPatterns : s.track.patterns = [])
    (next : s.tracksSeen + 1 = wanted) (n : Nat) :
    ∃ slot, s.readRecords wanted n sec.records =
      { s with
        track := { s.track with
          speed := sec.speed
          patternLength := sec.patternLength
          tempo := Track.requiredTempo
          order := sec.order
          patterns := sec.patterns }
        tracksSeen := wanted
        slot := slot } := by
  let opened : Import :=
    { s with
      track := { s.track with
        speed := sec.speed
        patternLength := sec.patternLength
        tempo := Track.requiredTempo }
      tracksSeen := wanted }
  have header : s.readRecord wanted n (.trackHeader sec.patternLength sec.speed
      Track.requiredTempo sec.name) = opened := by
    rw [readRecord_of_unsectioned rfl, apply, readTrackHeader]
    simp only [next, if_true, List.append_nil]
    rfl
  let ordered : Import := { opened with track := { opened.track with order := sec.order } }
  have frames (line : Nat) : opened.readRecords wanted line (numbered frameRecords 0 sec.order)
      = ordered :=
    readRecords_frames (show opened.tracksSeen = wanted from rfl)
      (show opened.track.order = [] from noOrder) exportable.frames line
  have patterns (line : Nat) : ordered.readRecords wanted line
      (numbered patternRecords 0 sec.patterns) = ordered.withPatterns sec.patterns :=
    readRecords_patterns (show ordered.tracksSeen = wanted from rfl)
      (show ordered.track.patterns = [] from noPatterns) exportable.slots exportable.rows
      exportable.nonempty line
  rw [Section.records, readRecords, header, readRecords_append, frames, patterns]
  exact ⟨_, rfl⟩

end Import

end Export

end TuneBank
