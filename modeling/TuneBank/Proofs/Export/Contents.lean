import TuneBank.Proofs.Export.LastWriter
import TuneBank.Proofs.Export.Problems
import TuneBank.Proofs.Text.Fields

/-! What a track holds, said without the import: for every part of it the line that decides, in the
whole file for what its tracks share and in the section of the track for the rest. A line is read
part by part; `consumed?` is the only place where the state of the import decides what is read. -/

namespace TuneBank.Export

def record? (line : String) : Option Record :=
  match decode line with
  | .record r => some r
  | _ => none

namespace Record

def title? : Record → Option String
  | title text => some text
  | _ => none

def macroEntry? (kind : MacroKind) : Record → Option (Nat × Macro)
  | macroDef m => if m.kind = kind then m.accepted?.map (m.index.toNat, ·) else none
  | _ => none

def instrumentEntry? : Record → Option (Nat × Instrument)
  | instrument index i => some (index.toNat, i)
  | _ => none

def pace? : Record → Option (UInt8 × Nat × Nat)
  | trackHeader patternLength speed tempo _ => some (speed, tempo, patternLength)
  | _ => none

def frameEntry? : Record → Option (Nat × Frame)
  | order frame slots => some (frame.toNat, slots)
  | _ => none

def cellAt? (c : Channel) (number : Nat) : Record → Option Cell
  | row n cells _ => if n = number then some (cells.get c) else none
  | _ => none

end Record

def reads {α : Type} (part : Record → Option α) (_above : List String) (line : String) : Option α :=
  (record? line).bind part

/-- What the tracks of a file share is what the last writers in the whole file made it. -/
structure Shared (lines : List String) (t : Track) : Prop where
  title : t.title = (lastWritten (reads Record.title?) lines).getD ""
  macros : ∀ kind, Lists .noop (reads (Record.macroEntry? kind)) lines (t.macros.get kind)
  instruments : Lists .empty (reads Record.instrumentEntry?) lines t.instruments

/-- The track is what the last writers among the lines made it: for the parts that belong to it
alone, those of its own section. -/
structure WrittenBy (is : RecordKind → String → Bool) (lines : List String) (wanted : Nat)
    (t : Track) : Prop extends Shared lines t where
  pace : (t.speed, t.tempo, t.patternLength)
    = (lastWritten (atOpening is wanted (reads Record.pace?)) lines).getD (6, 150, 64)
  order : Lists (.ofFn fun _ => 0) (inSection is wanted (reads Record.frameEntry?)) lines t.order
  cells : ∀ c slot row, t.cell c slot row =
    if row < t.patternLength then
      (lastWritten (inSection is wanted (inSlot is slot (reads (Record.cellAt? c row)))) lines).getD
        .empty
    else .empty

namespace Import
variable {wanted : Nat} {s : Import} {text : String} {r : Record} {above : List String}

/-- The record of a line, unless it belongs to the section of another track. -/
def consumed? (wanted : Nat) (s : Import) (text : String) : Option Record :=
  (record? text).filter fun r => !s.passesOver wanted r.kind

theorem track_readLine (wanted : Nat) (s : Import) (line : Nat) (text : String) :
    (s.readLine wanted line text).track
      = (s.consumed? wanted text).elim s.track fun r => (s.apply wanted line r).track := by
  rw [readLine, consumed?, record?]
  cases decode text with
  | ignored => rfl
  | malformed kind =>
    dsimp only
    split_ifs <;> rfl
  | record r =>
    dsimp only
    split_ifs with passed <;> simp [passed, Option.filter_some]

section
variable {α : Type} {part : Record → Option α}

theorem consumed?_bind_of_shared (shared : ∀ r : Record, r.kind.isSectioned → part r = none) :
    (s.consumed? wanted text).bind part = reads part above text := by
  rw [consumed?, reads]
  cases record? text with
  | none => rfl
  | some r =>
    by_cases sectioned : r.kind.isSectioned
    · by_cases seen : s.tracksSeen = wanted <;>
        simp [Option.filter_some, passesOver, sectioned, seen, shared r sectioned]
    · simp [Option.filter_some, passesOver, sectioned]

theorem consumed?_bind_of_own (own : ∀ r : Record, r.kind.isSectioned = false → part r = none)
    (traced : s.Traced wanted above) :
    (s.consumed? wanted text).bind part = inSection readable wanted (reads part) above text := by
  rw [consumed?, inSection, reads, traced.counted]
  cases record? text with
  | none => simp
  | some r =>
    by_cases sectioned : r.kind.isSectioned
    · by_cases seen : s.tracksSeen = wanted <;>
        simp [Option.filter_some, passesOver, sectioned, seen]
    · simp [Option.filter_some, passesOver, sectioned, own r (by simpa using sectioned)]

end

/-! One record, part by part -/

theorem track_readMacro (line : Nat) (m : MacroRecord) : (s.readMacro line m).track
    = { s.track with macros := (m.accepted?.elim s.track
        (s.track.setMacro m.kind m.index.toNat)).macros } := by
  rw [readMacro]
  cases m.accepted? <;> rfl

theorem track_readTrackHeader (line patternLength : Nat) (speed : UInt8) (tempo : Nat) :
    (s.readTrackHeader wanted line patternLength speed tempo).track
      = if s.tracksSeen + 1 = wanted then
          { s.track with patternLength := patternLength, speed := speed, tempo := tempo }
        else s.track := by
  rw [readTrackHeader]
  dsimp only
  split_ifs <;> rfl

theorem track_readRow (line row : Nat) (cells : PerChannel Cell)
    (unknownNotes : List (Channel × String)) :
    (s.readRow line row cells unknownNotes).track
      = { s.track with patterns := (s.readRow line row cells unknownNotes).track.patterns } := by
  rw [readRow]
  dsimp only
  split_ifs <;> rfl

theorem title_apply (line : Nat) (r : Record) :
    (s.apply wanted line r).track.title = r.title?.getD s.track.title := by
  cases r with
  | macroDef m => rw [apply, track_readMacro]; rfl
  | trackHeader => rw [apply, track_readTrackHeader]; split_ifs <;> rfl
  | row => rw [apply, track_readRow]; rfl
  | _ => rfl

theorem macros_apply (line : Nat) (r : Record) (kind : MacroKind) :
    (s.apply wanted line r).track.macros.get kind
      = (r.macroEntry? kind).elim (s.track.macros.get kind) fun entry =>
          setGrowing .noop (s.track.macros.get kind) entry.1 entry.2 := by
  cases r with
  | macroDef m =>
    rw [apply, track_readMacro, Record.macroEntry?]
    cases m.accepted? with
    | none => simp
    | some content =>
      by_cases same : m.kind = kind
      · subst same
        simp [Track.setMacro]
      · simp [Track.setMacro, same, Ne.symm same]
  | trackHeader => rw [apply, track_readTrackHeader]; split_ifs <;> rfl
  | row => rw [apply, track_readRow]; rfl
  | _ => rfl

theorem instruments_apply (line : Nat) (r : Record) :
    (s.apply wanted line r).track.instruments
      = r.instrumentEntry?.elim s.track.instruments fun entry =>
          setGrowing .empty s.track.instruments entry.1 entry.2 := by
  cases r with
  | macroDef m => rw [apply, track_readMacro]; rfl
  | trackHeader => rw [apply, track_readTrackHeader]; split_ifs <;> rfl
  | row => rw [apply, track_readRow]; rfl
  | _ => rfl

theorem order_apply (line : Nat) (r : Record) :
    (s.apply wanted line r).track.order
      = r.frameEntry?.elim s.track.order fun entry =>
          setGrowing (.ofFn fun _ => 0) s.track.order entry.1 entry.2 := by
  cases r with
  | macroDef m => rw [apply, track_readMacro]; rfl
  | trackHeader => rw [apply, track_readTrackHeader]; split_ifs <;> rfl
  | row => rw [apply, track_readRow]; rfl
  | _ => rfl

def pace (s : Import) : UInt8 × Nat × Nat := (s.track.speed, s.track.tempo, s.track.patternLength)

theorem pace_apply (line : Nat) (r : Record) : (s.apply wanted line r).pace
    = if s.tracksSeen + 1 = wanted then r.pace?.getD s.pace else s.pace := by
  cases r with
  | macroDef m => rw [pace, apply, track_readMacro]; split_ifs <;> rfl
  | trackHeader => rw [pace, apply, track_readTrackHeader]; split_ifs <;> rfl
  | row => rw [pace, apply, track_readRow]; split_ifs <;> rfl
  | _ => split_ifs <;> rfl

theorem cell_readRow (formed : s.track.WellFormed) (line number : Nat) (cells : PerChannel Cell)
    (unknownNotes : List (Channel × String)) (c : Channel) (slot : UInt8) (row : Nat) :
    (s.readRow line number cells unknownNotes).track.cell c slot row
      = if slot = s.slot ∧ row = number ∧ number < s.track.patternLength then cells.get c
        else s.track.cell c slot row := by
  have rows := formed.slotRows_ensureSlot s.slot
  rw [readRow]
  simp only [report, rows]
  by_cases inside : number < s.track.patternLength
  · rw [if_pos inside, Track.cell_setRow, Track.cell_ensureSlot, rows]
  · rw [if_neg inside, if_neg fun here => inside here.2.2]
    exact Track.cell_ensureSlot ..

theorem cell_apply (formed : s.track.WellFormed) (line : Nat) (r : Record) (c : Channel)
    (slot : UInt8) (row : Nat) : (s.apply wanted line r).track.cell c slot row
      = if slot = s.slot ∧ row < s.track.patternLength then
          (r.cellAt? c row).getD (s.track.cell c slot row)
        else s.track.cell c slot row := by
  have kept (t : Track) (patterns : t.patterns = s.track.patterns) (none : r.cellAt? c row = none) :
      t.cell c slot row = if slot = s.slot ∧ row < s.track.patternLength then
          (r.cellAt? c row).getD (s.track.cell c slot row)
        else s.track.cell c slot row := by
    rw [none, Track.cell, Track.pattern?, patterns]
    split_ifs <;> rfl
  cases r with
  | macroDef m => exact kept _ (by rw [apply, track_readMacro]) rfl
  | trackHeader =>
    exact kept _ (by rw [apply, track_readTrackHeader]; split_ifs <;> rfl) rfl
  | row number cells unknownNotes =>
    rw [apply, cell_readRow formed, Record.cellAt?]
    by_cases here : number = row
    · subst here
      simp
    · simp [here, Ne.symm here]
  | _ => exact kept _ rfl rfl

/-! One line, part by part -/

theorem lists_readLine {α : Type} {filler : α} (view : Track → List α)
    {part : Record → Option (Nat × α)} {writes : List String → String → Option (Nat × α)}
    (h : Lists filler writes above (view s.track)) (line : Nat)
    (own : (s.consumed? wanted text).bind part = writes above text)
    (applied : ∀ r, view (s.apply wanted line r).track
      = (part r).elim (view s.track) fun entry =>
          setGrowing filler (view s.track) entry.1 entry.2) :
    Lists filler writes (above ++ [text]) (view (s.readLine wanted line text).track) := by
  have next := h.snoc text
  rw [← own] at next
  rw [track_readLine]
  cases consumed : s.consumed? wanted text with
  | none => simpa [consumed] using next
  | some r =>
    rw [Option.elim_some, applied]
    simpa [consumed] using next

theorem pace_readLine (line : Nat) : (s.readLine wanted line text).pace
    = if s.tracksSeen + 1 = wanted then ((record? text).bind Record.pace?).getD s.pace
      else s.pace := by
  have own : (s.consumed? wanted text).bind Record.pace? = reads Record.pace? [] text := by
    refine consumed?_bind_of_shared fun r sectioned => ?_
    cases r with
    | trackHeader => exact nomatch sectioned
    | _ => rfl
  rw [reads] at own
  rw [← own, pace, track_readLine]
  cases s.consumed? wanted text with
  | none => exact (ite_self _).symm
  | some r => exact s.pace_apply line r

theorem cell_readLine (formed : s.track.WellFormed) (line : Nat) (c : Channel) (slot : UInt8)
    (row : Nat) : (s.readLine wanted line text).track.cell c slot row
      = if slot = s.slot ∧ row < s.track.patternLength then
          ((s.consumed? wanted text).bind (Record.cellAt? c row)).getD (s.track.cell c slot row)
        else s.track.cell c slot row := by
  rw [track_readLine]
  cases s.consumed? wanted text with
  | none => exact (ite_self _).symm
  | some r => exact cell_apply formed line r c slot row

end Import

/-! One line after others -/

section
variable {above : List String} {wanted : Nat} {s : Import}

theorem Shared.readLine (h : Shared above s.track) (wanted line : Nat) (text : String) :
    Shared (above ++ [text]) (s.readLine wanted line text).track where
  title := by
    have own : (s.consumed? wanted text).bind Record.title? = reads Record.title? above text := by
      refine Import.consumed?_bind_of_shared fun r sectioned => ?_
      cases r with
      | title => exact nomatch sectioned
      | _ => rfl
    rw [Import.track_readLine, lastWritten_snoc, Option.getD_or, ← h.title, ← own]
    cases s.consumed? wanted text with
    | none => rfl
    | some r => exact s.title_apply line r
  macros kind := by
    refine Import.lists_readLine (fun t => t.macros.get kind) (h.macros kind) line
      (s.consumed?_bind_of_shared fun r sectioned => ?_) fun r => s.macros_apply line r kind
    cases r with
    | macroDef => exact nomatch sectioned
    | _ => rfl
  instruments := by
    refine Import.lists_readLine Track.instruments h.instruments line
      (s.consumed?_bind_of_shared fun r sectioned => ?_) (s.instruments_apply line)
    cases r with
    | instrument => exact nomatch sectioned
    | _ => rfl

theorem WrittenBy.readLine (h : WrittenBy readable above wanted s.track)
    (traced : s.Traced wanted above) (formed : s.WellFormed wanted) (line : Nat) (text : String) :
    WrittenBy readable (above ++ [text]) wanted (s.readLine wanted line text).track where
  toShared := h.toShared.readLine wanted line text
  pace := by
    have before : s.pace = _ := h.pace
    refine (Import.pace_readLine line).trans ?_
    rw [lastWritten_snoc, Option.getD_or, ← before, atOpening, traced.counted, reads]
    split_ifs <;> rfl
  order := by
    refine Import.lists_readLine Track.order h.order line
      (s.consumed?_bind_of_own (fun r shared => ?_) traced) (s.order_apply line)
    cases r with
    | order => exact nomatch shared
    | _ => rfl
  cells c slot row := by
    have own : (s.consumed? wanted text).bind (Record.cellAt? c row)
        = inSection readable wanted (reads (Record.cellAt? c row)) above text := by
      refine Import.consumed?_bind_of_own (fun r shared => ?_) traced
      cases r with
      | row => exact nomatch shared
      | _ => rfl
    have written : inSection readable wanted (inSlot readable slot (reads (Record.cellAt? c row)))
          above text
        = if slot = s.slot then (s.consumed? wanted text).bind (Record.cellAt? c row) else none := by
      rw [own, inSection, inSection, traced.counted]
      by_cases seen : s.tracksSeen = wanted
      · simp [seen, inSlot, traced.selected seen, eq_comm]
      · simp [seen]
    have length : (s.readLine wanted line text).track.patternLength = _ :=
      congrArg (·.2.2) (Import.pace_readLine line)
    rw [Import.cell_readLine formed.track, lastWritten_snoc, written, h.cells c slot row]
    by_cases opens : s.tracksSeen + 1 = wanted
    · have early : above.countP (readable .trackHeader) < wanted := by
        rw [traced.counted]
        omega
      have away : s.tracksSeen ≠ wanted := by omega
      rw [lastWritten_inSection_eq_none readable _ early, own, inSection, traced.counted,
        if_neg away]
      simp
    · rw [if_neg opens] at length
      rw [length]
      change _ = if row < s.track.patternLength then _ else _
      by_cases inside : row < s.track.patternLength
      · by_cases here : slot = s.slot <;> simp [inside, here, Option.getD_or]
      · simp [inside]

end

theorem shared_start : Shared [] Import.start.track where
  title := rfl
  macros kind := by cases kind <;> exact .nil
  instruments := .nil

theorem writtenBy_start (wanted : Nat) : WrittenBy readable [] wanted Import.start.track where
  toShared := shared_start
  pace := rfl
  order := .nil
  cells _ _ _ := (ite_self _).symm

theorem Shared.readLines {above : List String} {s : Import} (h : Shared above s.track)
    (wanted line : Nat) (texts : List String) :
    Shared (above ++ texts) (s.readLines wanted line texts).track := by
  induction texts generalizing s above line with
  | nil => rwa [List.append_nil]
  | cons text texts ih =>
    have later := ih (h.readLine wanted line text) (line + 1)
    rwa [List.append_assoc] at later

theorem WrittenBy.readLines {above : List String} {wanted : Nat} {s : Import}
    (h : WrittenBy readable above wanted s.track) (traced : s.Traced wanted above)
    (formed : s.WellFormed wanted) (line : Nat) {texts : List String}
    (oneLine : ∀ text ∈ texts, '\n' ∉ text.toList) :
    WrittenBy readable (above ++ texts) wanted (s.readLines wanted line texts).track := by
  induction texts generalizing s above line with
  | nil => rwa [List.append_nil]
  | cons text texts ih =>
    obtain ⟨first, rest⟩ := List.forall_mem_cons.mp oneLine
    have later := ih (h.readLine traced formed line text) (traced.readLine line)
      (formed.readLine line first) (line + 1) rest
    rwa [List.append_assoc] at later

theorem shared_load (text : String) (wanted : Nat) :
    Shared (Text.lines text) (load text wanted).value :=
  shared_start.readLines wanted 1 (Text.lines text)

theorem writtenBy_load (text : String) (wanted : Nat) :
    WrittenBy readable (Text.lines text) wanted (load text wanted).value :=
  (writtenBy_start wanted).readLines Import.traced_start Import.wellFormed_start 1
    fun _ => Text.noNewline_of_mem_lines

theorem WrittenBy.congr {is other : RecordKind → String → Bool} {lines : List String}
    {wanted : Nat} {t : Track} (h : WrittenBy is lines wanted t)
    (agree : ∀ line ∈ lines, ∀ kind ∈ [RecordKind.trackHeader, .patternSelect],
      is kind line = other kind line) : WrittenBy other lines wanted t := by
  have agree {above : List String} {line : String} (early : above ++ [line] <+: lines) :
      ∀ l ∈ above, ∀ kind ∈ [RecordKind.trackHeader, .patternSelect],
        is kind l = other kind l := fun l member =>
    agree l (early.subset (List.mem_append_left _ member))
  have count {above : List String} {line : String} (early : above ++ [line] <+: lines) :
      above.countP (is .trackHeader) = above.countP (other .trackHeader) :=
    List.countP_congr fun l member => by rw [agree early l member .trackHeader (by simp)]
  refine { h with pace := h.pace.trans ?_, order := h.order.congr ?_, cells := ?_ }
  · rw [lastWritten_congr fun above line early => ?_]
    rw [atOpening, atOpening, count early]
  · intro above line early
    rw [inSection, inSection, count early]
  · intro c slot row
    rw [h.cells c slot row, lastWritten_congr fun above line early => ?_]
    rw [inSection, inSection, inSlot, inSlot, count early, selection?_congr (agree early)]

/-- If every header of the file can be read, each part of a track is that of the last line that
writes it, in the whole file or in the section of the track. -/
theorem load_keeps_last_writers (text : String) (wanted : Nat)
    (sound : ∀ line ∈ Text.lines text, ∀ kind ∈ [RecordKind.trackHeader, .patternSelect],
      headed kind line → readable kind line) :
    WrittenBy headed (Text.lines text) wanted (load text wanted).value :=
  (writtenBy_load text wanted).congr fun line member kind header =>
    Bool.eq_iff_iff.mpr ⟨headed_of_readable, sound line member kind header⟩

/-- The second of two tracks has a gap in its order and a row that is written twice, and the title
comes again at the end. -/
def rewrittenLines : List String := [
  "TITLE \"draft\"",
  "TRACK 1 6 150",
  "TRACK 1 3 150",
  "ORDER 1 : 0 1 0 0 0",
  "PATTERN 1",
  "ROW 0 : C-3 .. . : ... .. . : ... .. . : ... .. . : ... .. .",
  "ROW 0 : D-3 .. . : ... .. . : ... .. . : ... .. . : ... .. .",
  "TITLE \"final\""]

theorem unbroken_rewrittenLines : ∀ line ∈ rewrittenLines, Text.Unbroken line := by
  have each : ∀ line ∈ rewrittenLines,
      '\n' ∉ line.toList ∧ line.toList.getLast? ≠ some '\r' := by decide +kernel
  exact fun line member => ⟨(each line member).1, (each line member).2⟩

theorem rewrittenLines_keep_last_writers :
    WrittenBy headed rewrittenLines 2 (load (Text.unlines rewrittenLines) 2).value
      ∧ (load (Text.unlines rewrittenLines) 2).value.title = "final"
      ∧ ((load (Text.unlines rewrittenLines) 2).value.cell .pulse1 1 0).note = .tone 3 2 := by
  have cut := Text.lines_unlines unbroken_rewrittenLines
  have main := load_keeps_last_writers (Text.unlines rewrittenLines) 2 (by
    rw [cut]
    decide +kernel)
  rw [cut] at main
  refine ⟨main, ?_⟩
  rw [load, cut]
  decide +kernel

end TuneBank.Export
