import Mathlib.Data.List.Induction
import TuneBank.Proofs.Export.Invariant

/-! Where the cells of a track come from. A row belongs to the section that the nearest track line
above it opens and to the slot that the nearest pattern line within the section selects. The import
goes by the lines that it can read: as long as every header is one of those, rows stay where they
belong, and below a broken one they go into the section or the slot before it. -/

namespace TuneBank

namespace Track
variable (t : Track) (c : Channel) (slot : UInt8) (row : Nat)

theorem cell_ensureSlot (own : UInt8) : (t.ensureSlot own).cell c slot row = t.cell c slot row := by
  unfold cell pattern? ensureSlot
  rw [List.getElem?_append]
  split_ifs with inside
  · rfl
  · rw [List.getElem?_eq_none (Nat.le_of_not_lt inside), List.getElem?_replicate]
    split_ifs
    · simp only [Option.bind_some, Option.bind_none, Pattern.empty, List.getElem?_replicate]
      split_ifs
      · cases c <;> rfl
      · rfl
    · rfl

theorem cell_setRow (own : UInt8) (at' : Nat) (cells : PerChannel Cell) :
    (t.modifySlot own (·.setRow at' cells)).cell c slot row
      = if slot = own ∧ row = at' ∧ at' < t.slotRows own then cells.get c
        else t.cell c slot row := by
  unfold cell slotRows pattern? modifySlot
  rw [List.getElem?_modify]
  by_cases same : own = slot
  · subst same
    cases t.patterns[own.toNat]? with
    | none => simp
    | some p =>
      by_cases here : at' = row
      · subst here
        by_cases inside : at' < p.cells.length <;> simp [Pattern.setRow, Pattern.rows, inside]
      · simp [Pattern.setRow, here, Ne.symm here]
  · have apart : own.toNat ≠ slot.toNat := fun numbers => same (UInt8.toNat_inj.mp numbers)
    simp [apart, Ne.symm same]

end Track

namespace Export

/-- The line is a record of this kind, whether it can be read or not. -/
def headed (kind : RecordKind) (line : String) : Bool :=
  (Text.fields line).head? = some kind.name

/-- The line reads as a record of this kind. -/
def readable (kind : RecordKind) (line : String) : Bool :=
  match decode line with
  | .record r => r.kind = kind
  | _ => false

theorem readable_of_decode {line : String} {r : Record} (h : decode line = .record r)
    (kind : RecordKind) : readable kind line = decide (r.kind = kind) := by
  rw [readable, h]

theorem headed_of_readable {kind : RecordKind} {line : String} (h : readable kind line) :
    headed kind line := by
  unfold readable at h
  split at h
  · rename_i r decoded
    obtain ⟨name, fields, cut, read⟩ := exists_read?_of_decode decoded
    have same : name = kind := (Record.shape_of_read? read).1.symm.trans (of_decide_eq_true h)
    simp [headed, cut, same]
  · exact nomatch h

/-- The line is a row with this cell. -/
def bears (c : Channel) (row : Nat) (cell : Cell) (line : String) : Bool :=
  match decode line with
  | .record (.row number cells _) => number = row && cells.get c = cell
  | _ => false

section
variable (is : RecordKind → String → Bool)

/-- The nearest pattern line above, within the section. -/
def selector? (above : List String) : Option String :=
  (above.reverse.takeWhile (!is .trackHeader ·)).find? (is .patternSelect)

/-- The slot that rows below these lines belong to, if the nearest pattern line can be read. -/
def selection? (above : List String) : Option UInt8 :=
  match selector? is above with
  | none => some 0
  | some line =>
    match decode line with
    | .record (.patternSelect slot) => some slot
    | _ => none

/-- The cell is that of a row which belongs to this slot of this track. -/
def ComesFrom (lines : List String) (track : Nat) (c : Channel) (slot : UInt8) (row : Nat)
    (cell : Cell) : Prop :=
  ∃ i : Fin lines.length, bears c row cell lines[i]
    ∧ (lines.take i).countP (is .trackHeader) = track
    ∧ selection? is (lines.take i) = some slot

instance (lines : List String) (track : Nat) (c : Channel) (slot : UInt8) (row : Nat)
    (cell : Cell) : Decidable (ComesFrom is lines track c slot row cell) :=
  inferInstanceAs (Decidable (∃ _ : Fin lines.length, _))

variable {is} {above lines : List String} {line : String} {track : Nat} {c : Channel}
  {slot : UInt8} {row : Nat} {cell : Cell}

theorem selector?_snoc : selector? is (above ++ [line]) =
    if is .trackHeader line then none
    else if is .patternSelect line then some line else selector? is above := by
  unfold selector?
  rw [List.reverse_append, List.reverse_singleton, List.singleton_append, List.takeWhile_cons]
  cases is .trackHeader line with
  | true => rfl
  | false => cases selects : is .patternSelect line <;> simp [selects]

theorem ComesFrom.snoc (h : ComesFrom is lines track c slot row cell) (line : String) :
    ComesFrom is (lines ++ [line]) track c slot row cell := by
  obtain ⟨⟨i, inside⟩, born, place⟩ := h
  refine ⟨⟨i, by simp; omega⟩, ?_, ?_⟩
  · simpa [List.getElem_append_left inside] using born
  · simpa [List.take_append_of_le_length (Nat.le_of_lt inside)] using place

theorem comesFrom_last (born : bears c row cell line)
    (counted : above.countP (is .trackHeader) = track)
    (selected : selection? is above = some slot) :
    ComesFrom is (above ++ [line]) track c slot row cell :=
  ⟨⟨above.length, by simp⟩, by simpa using born, by simpa using counted, by simpa using selected⟩

variable {other : RecordKind → String → Bool}

theorem selection?_congr (agree : ∀ line ∈ above, ∀ kind ∈ [RecordKind.trackHeader, .patternSelect],
    is kind line = other kind line) : selection? is above = selection? other above := by
  have same : selector? is above = selector? other above := by
    induction above using List.reverseRecOn with
    | nil => rfl
    | append_singleton above line ih =>
      have last := agree line (by simp)
      rw [selector?_snoc, selector?_snoc, last .trackHeader (by simp),
        last .patternSelect (by simp), ih fun l member => agree l (by simp [member])]
  rw [selection?, same, selection?]

theorem ComesFrom.congr (h : ComesFrom is lines track c slot row cell)
    (agree : ∀ line ∈ lines, ∀ kind ∈ [RecordKind.trackHeader, .patternSelect],
      is kind line = other kind line) : ComesFrom other lines track c slot row cell := by
  obtain ⟨i, born, counted, selected⟩ := h
  have agree {l : String} (member : l ∈ lines.take i) := agree l (List.mem_of_mem_take member)
  refine ⟨i, born, ?_, ?_⟩
  · rw [← counted]
    exact List.countP_congr fun l member => by rw [agree member .trackHeader (by simp)]
  · rw [← selected]
    exact (selection?_congr fun l => agree).symm

end

namespace Import

structure Traced (wanted : Nat) (above : List String) (s : Import) : Prop where
  counted : above.countP (readable .trackHeader) = s.tracksSeen
  unopened : s.tracksSeen < wanted → s.slot = 0
  selected : s.tracksSeen = wanted → selection? readable above = some s.slot
  written : ∀ c slot row, s.track.cell c slot row ≠ .empty →
    ComesFrom readable above wanted c slot row (s.track.cell c slot row)

variable {wanted : Nat} {above : List String} {s s' : Import} {text : String}

theorem traced_start : start.Traced wanted [] where
  counted := rfl
  unopened _ := rfl
  selected _ := rfl
  written _ _ _ some := absurd rfl some

namespace Traced
variable (h : s.Traced wanted above)
include h

theorem written_snoc (patterns : s'.track.patterns = s.track.patterns) (text : String) (c : Channel)
    (slot : UInt8) (row : Nat) (some : s'.track.cell c slot row ≠ .empty) :
    ComesFrom readable (above ++ [text]) wanted c slot row (s'.track.cell c slot row) := by
  have same : s'.track.cell c slot row = s.track.cell c slot row := by
    rw [Track.cell, Track.pattern?, patterns]
    rfl
  rw [same] at some ⊢
  exact (h.written c slot row some).snoc text

theorem pass (closed : readable .trackHeader text = false)
    (own : s.tracksSeen = wanted → readable .patternSelect text = false)
    (seen : s'.tracksSeen = s.tracksSeen) (slot : s'.slot = s.slot)
    (patterns : s'.track.patterns = s.track.patterns) : s'.Traced wanted (above ++ [text]) where
  counted := by simp [closed, h.counted, seen]
  unopened := by rw [seen, slot]; exact h.unopened
  selected := by
    rw [seen, slot]
    intro opened
    rw [selection?, selector?_snoc, closed, own opened]
    exact h.selected opened
  written := h.written_snoc patterns text

theorem readTrackHeader (line patternLength : Nat) (speed : UInt8) (tempo : Nat)
    (opens : readable .trackHeader text) :
    (s.readTrackHeader wanted line patternLength speed tempo).Traced wanted (above ++ [text]) := by
  have shape : (s.readTrackHeader wanted line patternLength speed tempo).tracksSeen
        = s.tracksSeen + 1
      ∧ (s.readTrackHeader wanted line patternLength speed tempo).slot = s.slot
      ∧ (s.readTrackHeader wanted line patternLength speed tempo).track.patterns
        = s.track.patterns := by
    rw [Import.readTrackHeader]
    split_ifs <;> exact ⟨rfl, rfl, rfl⟩
  obtain ⟨seen, slot, patterns⟩ := shape
  constructor
  case counted => simp [opens, h.counted, seen]
  case unopened =>
    rw [seen, slot]
    exact fun before => h.unopened (Nat.lt_of_succ_lt before)
  case selected =>
    intro opened
    rw [selection?, selector?_snoc, if_pos opens, slot, h.unopened (by omega)]
  case written => exact h.written_snoc patterns text

theorem select {slot : UInt8} (opened : s.tracksSeen = wanted)
    (decoded : decode text = .record (.patternSelect slot)) :
    ({ s with slot := slot } : Import).Traced wanted (above ++ [text]) where
  counted := by simp [readable_of_decode decoded, Record.kind, h.counted]
  unopened before := absurd opened (Nat.ne_of_lt before)
  selected _ := by
    simp [selection?, selector?_snoc, readable_of_decode decoded, Record.kind, decoded]
  written := h.written_snoc rfl text

theorem readRow (line : Nat) {row : Nat} {cells : PerChannel Cell}
    {unknownNotes : List (Channel × String)} (opened : s.tracksSeen = wanted)
    (decoded : decode text = .record (.row row cells unknownNotes)) :
    (s.readRow line row cells unknownNotes).Traced wanted (above ++ [text]) := by
  have closed := readable_of_decode decoded .trackHeader
  have other := readable_of_decode decoded .patternSelect
  have place : selection? readable (above ++ [text]) = some s.slot := by
    rw [selection?, selector?_snoc, closed, other]
    exact h.selected opened
  have old (c : Channel) (slot : UInt8) (at' : Nat)
      (some : (s.track.ensureSlot s.slot).cell c slot at' ≠ .empty) :
      ComesFrom readable (above ++ [text]) wanted c slot at'
        ((s.track.ensureSlot s.slot).cell c slot at') := by
    rw [Track.cell_ensureSlot] at some ⊢
    exact (h.written c slot at' some).snoc text
  have counted : (above ++ [text]).countP (readable .trackHeader) = s.tracksSeen := by
    simp [closed, Record.kind, h.counted]
  rw [Import.readRow]
  split_ifs
  · refine ⟨counted, fun before => absurd opened (Nat.ne_of_lt before), fun _ => place,
      fun c slot at' some => ?_⟩
    rw [Track.cell_setRow] at some ⊢
    split_ifs at some ⊢ with here
    · obtain ⟨rfl, rfl, -⟩ := here
      have born : bears c at' (cells.get c) text := by simp [bears, decoded]
      exact comesFrom_last born (h.counted.trans opened) (h.selected opened)
    · exact old c slot at' some
  · exact ⟨counted, fun before => absurd opened (Nat.ne_of_lt before), fun _ => place, old⟩

theorem apply (line : Nat) {r : Record} (decoded : decode text = .record r)
    (own : s.passesOver wanted r.kind = false) :
    (s.apply wanted line r).Traced wanted (above ++ [text]) := by
  have reads := readable_of_decode decoded
  have opened (sectioned : r.kind.isSectioned) : s.tracksSeen = wanted := by
    simpa [passesOver, sectioned] using own
  cases r with
  | title title => exact h.pass (reads _) (fun _ => reads _) rfl rfl rfl
  | macroDef m =>
    refine h.pass (reads _) (fun _ => reads _) ?_ ?_ ?_
    all_goals
      rw [Import.apply, readMacro]
      split <;> rfl
  | instrument index i => exact h.pass (reads _) (fun _ => reads _) rfl rfl rfl
  | order frame slots => exact h.pass (reads _) (fun _ => reads _) rfl rfl rfl
  | trackHeader patternLength speed tempo name =>
    exact h.readTrackHeader line patternLength speed tempo (reads _)
  | patternSelect slot => exact h.select (opened rfl) decoded
  | row row cells unknownNotes => exact h.readRow line (opened rfl) decoded

theorem readLine (line : Nat) : (s.readLine wanted line text).Traced wanted (above ++ [text]) := by
  unfold Import.readLine
  split
  · rename_i decoded
    have reads (kind : RecordKind) : readable kind text = false := by rw [readable, decoded]
    exact h.pass (reads _) (fun _ => reads _) rfl rfl rfl
  · rename_i decoded
    have reads (kind : RecordKind) : readable kind text = false := by rw [readable, decoded]
    split_ifs <;> exact h.pass (reads _) (fun _ => reads _) rfl rfl rfl
  · rename_i r decoded
    split_ifs with passed
    · have away : r.kind.isSectioned ∧ s.tracksSeen ≠ wanted := by simpa [passesOver] using passed
      refine h.pass ?_ (fun opened => absurd opened away.2) rfl rfl rfl
      rw [readable_of_decode decoded, decide_eq_false_iff_not]
      exact fun opens => absurd away.1 (by rw [opens]; decide)
    · exact h.apply line decoded (Bool.eq_false_iff.mpr passed)

theorem readLines (line : Nat) (texts : List String) :
    (s.readLines wanted line texts).Traced wanted (above ++ texts) := by
  induction texts generalizing s above line with
  | nil => rwa [List.append_nil]
  | cons text texts ih =>
    have first : (s.readLine wanted line text).Traced wanted (above ++ [text]) := h.readLine line
    have later := ih first (line + 1)
    rwa [List.append_assoc] at later

end Traced

end Import

theorem cell_comesFrom_readable (text : String) (wanted : Nat) (c : Channel) (slot : UInt8)
    (row : Nat) (some : (load text wanted).value.cell c slot row ≠ .empty) :
    ComesFrom readable (Text.lines text) wanted c slot row
      ((load text wanted).value.cell c slot row) :=
  (Import.traced_start.readLines 1 (Text.lines text)).written c slot row some

/-- If every header of the file can be read, each cell of a track is that of a row in its own
section, below the selection of its own slot. -/
theorem cell_comesFrom_own_section (text : String) (wanted : Nat)
    (sound : ∀ line ∈ Text.lines text, ∀ kind ∈ [RecordKind.trackHeader, .patternSelect],
      headed kind line → readable kind line)
    (c : Channel) (slot : UInt8) (row : Nat)
    (some : (load text wanted).value.cell c slot row ≠ .empty) :
    ComesFrom headed (Text.lines text) wanted c slot row
      ((load text wanted).value.cell c slot row) :=
  (cell_comesFrom_readable text wanted c slot row some).congr fun line member kind header =>
    Bool.eq_iff_iff.mpr ⟨headed_of_readable, sound line member kind header⟩

def twoTracks : String :=
  Text.unlines [
    "TRACK 1 6 150",
    "TRACK 1 6 150",
    "PATTERN 1",
    "ROW 0 : D-3 .. . : ... .. . : ... .. . : ... .. . : ... .. ."]

theorem twoTracks_cell_comesFrom_own_section :
    ComesFrom headed (Text.lines twoTracks) 2 .pulse1 1 0
      ((load twoTracks 2).value.cell .pulse1 1 0) :=
  cell_comesFrom_own_section twoTracks 2 (by decide +kernel) .pulse1 1 0 (by decide +kernel)

/-- The second track would have patterns without rows. -/
def brokenTrack : String :=
  Text.unlines [
    "TRACK 1 6 150",
    "TRACK 0 6 150",
    "ROW 0 : D-3 .. . : ... .. . : ... .. . : ... .. . : ... .. ."]

/-- The selected slot is no hexadecimal number. -/
def brokenSelection : String :=
  Text.unlines [
    "TRACK 1 6 150",
    "PATTERN 0x1",
    "ROW 0 : D-3 .. . : ... .. . : ... .. . : ... .. . : ... .. ."]

def strayCell : Cell := ⟨.tone 3 2, none, none, []⟩

theorem broken_header_redirects_rows :
    ((load brokenTrack 1).value.cell .pulse1 0 0 = strayCell
      ∧ ¬ ComesFrom headed (Text.lines brokenTrack) 1 .pulse1 0 0 strayCell)
    ∧ (load brokenSelection 1).value.cell .pulse1 0 0 = strayCell
      ∧ ¬ ComesFrom headed (Text.lines brokenSelection) 1 .pulse1 0 0 strayCell := by
  decide +kernel

end Export
end TuneBank
