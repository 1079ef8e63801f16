import TuneBank.Proofs.Export.Attribution
import TuneBank.Proofs.Export.Problems
import TuneBank.Proofs.Pool.Alike

/-! Lines of data that an import drops. Such a line is reported, and it may leave empty pattern
slots behind; nothing else comes of it. So without the dropped lines the import reports everything
but their problems, and the track that it gives is alike. -/

namespace TuneBank

namespace Track

theorem alike_ensureSlot (t : Track) (slot : UInt8) : t.Alike (t.ensureSlot slot) :=
  ⟨rfl, fun c other row => t.cell_ensureSlot c other row slot⟩

theorem Alike.setRow {t u : Track} (h : t.Alike u) {own : UInt8} {row : Nat}
    (here : row < t.slotRows own) (there : row < u.slotRows own) (cells : PerChannel Cell) :
    (t.modifySlot own (·.setRow row cells)).Alike (u.modifySlot own (·.setRow row cells)) where
  rest := by
    rw [h.rest]
    rfl
  cells c slot other := by
    simp only [cell_setRow, here, there, h.cells]

end Track

namespace Export

namespace Import
variable {wanted : Nat} {s s' : Import}

structure Alike (s s' : Import) : Prop where
  track : s.track.Alike s'.track
  tracksSeen : s'.tracksSeen = s.tracksSeen
  titled : s'.titled = s.titled
  slot : s'.slot = s.slot

namespace Alike

theorem refl (s : Import) : s.Alike s := ⟨.refl _, rfl, rfl, rfl⟩

variable (h : s.Alike s')
include h

theorem symm : s'.Alike s :=
  ⟨h.track.symm, h.tracksSeen.symm, h.titled.symm, h.slot.symm⟩

theorem trans {t : Import} (next : s'.Alike t) : s.Alike t where
  track := h.track.trans next.track
  tracksSeen := next.tracksSeen.trans h.tracksSeen
  titled := next.titled.trans h.titled
  slot := next.slot.trans h.slot

theorem passesOver (kind : RecordKind) : s'.passesOver wanted kind = s.passesOver wanted kind := by
  rw [Import.passesOver, h.tracksSeen]
  rfl

theorem problems (line : Nat) (text : String) :
    s'.problems wanted line text = s.problems wanted line text := by
  simp only [Import.problems, h.passesOver, h.tracksSeen, h.track.patternLength]

theorem closing : s'.closing wanted = s.closing wanted := by
  rw [Import.closing, Import.closing, h.titled, h.tracksSeen]

theorem readMacro (line : Nat) (m : MacroRecord) :
    (s.readMacro line m).Alike (s'.readMacro line m) := by
  unfold Import.readMacro
  cases m.accepted? with
  | none => exact ⟨h.track, h.tracksSeen, h.titled, h.slot⟩
  | some content =>
    exact ⟨h.track.map (f := (·.setMacro m.kind m.index.toNat content)) fun _ _ => rfl,
      h.tracksSeen, h.titled, h.slot⟩

theorem readTrackHeader (line patternLength : Nat) (speed : UInt8) (tempo : Nat) :
    (s.readTrackHeader wanted line patternLength speed tempo).Alike
      (s'.readTrackHeader wanted line patternLength speed tempo) := by
  have track := h.track.map
    (f := fun t => { t with patternLength := patternLength, speed := speed, tempo := tempo })
    fun _ _ => rfl
  simp only [Import.readTrackHeader, h.tracksSeen]
  by_cases opens : s.tracksSeen + 1 = wanted
  · simp only [if_pos opens]
    exact ⟨track, rfl, h.titled, h.slot⟩
  · simp only [if_neg opens]
    exact ⟨h.track, rfl, h.titled, h.slot⟩

theorem readRow (hs : s.WellFormed wanted) (hs' : s'.WellFormed wanted) (line number : Nat)
    (cells : PerChannel Cell) (unknownNotes : List (Channel × String)) :
    (s.readRow line number cells unknownNotes).Alike
      (s'.readRow line number cells unknownNotes) := by
  have rows := hs.track.slotRows_ensureSlot s.slot
  have rows' := hs'.track.slotRows_ensureSlot s.slot
  have track := ((s.track.alike_ensureSlot s.slot).symm.trans h.track).trans
    (s'.track.alike_ensureSlot s.slot)
  rw [h.track.patternLength] at rows'
  simp only [Import.readRow, report, h.slot, rows, rows']
  split_ifs with inside
  · exact ⟨track.setRow (rows.symm ▸ inside) (rows'.symm ▸ inside) cells, h.tracksSeen, h.titled,
      rfl⟩
  · exact ⟨track, h.tracksSeen, h.titled, rfl⟩

theorem apply (hs : s.WellFormed wanted) (hs' : s'.WellFormed wanted) (line : Nat) (r : Record) :
    (s.apply wanted line r).Alike (s'.apply wanted line r) := by
  cases r with
  | title text =>
    exact ⟨h.track.map (f := fun t => { t with title := text }) fun _ _ => rfl, h.tracksSeen, rfl,
      h.slot⟩
  | macroDef m => exact h.readMacro line m
  | instrument index i =>
    exact ⟨h.track.map (f := (·.setInstrument index.toNat i)) fun _ _ => rfl, h.tracksSeen,
      h.titled, h.slot⟩
  | trackHeader patternLength speed tempo name =>
    exact h.readTrackHeader line patternLength speed tempo
  | order frame slots =>
    exact ⟨h.track.map (f := (·.setFrame frame.toNat slots)) fun _ _ => rfl, h.tracksSeen,
      h.titled, h.slot⟩
  | patternSelect slot => exact ⟨h.track, h.tracksSeen, h.titled, rfl⟩
  | row number cells unknownNotes => exact h.readRow hs hs' line number cells unknownNotes

theorem readLine (hs : s.WellFormed wanted) (hs' : s'.WellFormed wanted) (line : Nat)
    (text : String) :
    (s.readLine wanted line text).Alike (s'.readLine wanted line text) := by
  unfold Import.readLine
  cases decode text with
  | ignored => exact h
  | malformed kind =>
    dsimp only
    rw [h.passesOver]
    split_ifs
    · exact h
    · exact ⟨h.track, h.tracksSeen, h.titled, h.slot⟩
  | record r =>
    dsimp only
    rw [h.passesOver]
    split_ifs
    · exact h
    · exact h.apply hs hs' line r

end Alike

theorem alike_apply_of_drop (h : s.WellFormed wanted) {line : Nat} {r : Record}
    (drop : (r.problems wanted (s.tracksSeen + 1) s.track.patternLength line).any
      ImportError.isDrop) : s.Alike (s.apply wanted line r) := by
  cases r with
  | macroDef m =>
    have refused : m.accepted? = none := if_pos (MacroRecord.holdsMarker_of_drop drop)
    simp only [Import.apply, readMacro, refused]
    exact ⟨.refl s.track, rfl, rfl, rfl⟩
  | row number cells unknownNotes =>
    have outside : ¬ number < s.track.patternLength := by
      intro inside
      rw [Record.problems, if_pos inside] at drop
      simp [ImportError.isDrop] at drop
    simp only [Import.apply, readRow, report, h.track.slotRows_ensureSlot, if_neg outside]
    exact ⟨s.track.alike_ensureSlot s.slot, rfl, rfl, rfl⟩
  | trackHeader patternLength speed tempo name =>
    rw [Record.problems] at drop
    split_ifs at drop <;> simp [ImportError.isDrop] at drop
  | _ => exact absurd drop Bool.false_ne_true

theorem alike_readLine_of_drop (h : s.WellFormed wanted) {line : Nat} {text : String}
    (drop : (s.problems wanted line text).any ImportError.isDrop) :
    s.Alike (s.readLine wanted line text) := by
  unfold problems at drop
  unfold readLine
  revert drop
  cases decode text with
  | ignored => exact fun _ => .refl s
  | malformed kind =>
    intro _
    dsimp only
    split_ifs
    · exact .refl s
    · exact ⟨.refl s.track, rfl, rfl, rfl⟩
  | record r =>
    intro drop
    dsimp only at drop ⊢
    split_ifs at drop ⊢
    · exact .refl s
    · exact alike_apply_of_drop h drop

end Import

def blanked (dropped : Nat → Bool) : Nat → List String → List String
  | _, [] => []
  | n, text :: rest => (if dropped n then "" else text) :: blanked dropped (n + 1) rest

theorem noNewline_of_mem_blanked {dropped : Nat → Bool} {n : Nat} {texts : List String}
    (oneLine : ∀ text ∈ texts, '\n' ∉ text.toList) :
    ∀ text ∈ blanked dropped n texts, '\n' ∉ text.toList := by
  induction texts generalizing n with
  | nil => exact oneLine
  | cons text rest ih =>
    obtain ⟨first, later⟩ := List.forall_mem_cons.mp oneLine
    refine List.forall_mem_cons.mpr ⟨?_, ih later⟩
    split_ifs
    · decide
    · exact first

namespace Import
variable {wanted : Nat} {s s' : Import}

theorem dropped_cons {dropped : Nat → Bool} {n : Nat} {text : String} {rest : List String}
    (drops : ∀ line ≥ n,
      dropped line ↔ line ∈ droppedLines (s.allProblems wanted n (text :: rest))) :
    (dropped n ↔ (s.problems wanted n text).any ImportError.isDrop)
      ∧ ∀ line ≥ n + 1, dropped line
        ↔ line ∈ droppedLines ((s.readLine wanted n text).allProblems wanted (n + 1) rest) := by
  have own : ∀ e ∈ s.problems wanted n text, e.line? = some n := line?_of_mem_problems s n text
  have later : n ∉ droppedLines ((s.readLine wanted n text).allProblems wanted (n + 1) rest) := by
    rw [mem_droppedLines]
    rintro ⟨e, member, -, on⟩
    obtain ⟨line, beyond, there⟩ := line_of_mem_allProblems _ (n + 1) rest e member
    obtain rfl : n = line := Option.some.inj (on.symm.trans there)
    exact Nat.not_succ_le_self n beyond
  have earlier (line : Nat) (beyond : line ≥ n + 1) :
      line ∉ droppedLines (s.problems wanted n text) := by
    rw [mem_droppedLines]
    rintro ⟨e, member, -, on⟩
    obtain rfl : n = line := Option.some.inj ((own e member).symm.trans on)
    exact Nat.not_succ_le_self n beyond
  simp only [allProblems, droppedLines_append, List.mem_append] at drops
  constructor
  · rw [drops n (Nat.le_refl n), or_iff_left later, mem_droppedLines, List.any_eq_true]
    exact exists_congr fun e => and_congr_right fun member => and_iff_left (own e member)
  · intro line beyond
    rw [drops line (Nat.le_of_succ_le beyond), or_iff_right (earlier line beyond)]

/-- Of two imports that are alike, one reads all lines and the other finds the dropped ones empty:
they stay alike, and only the problems of dropped lines are missing. -/
theorem Alike.readLines_blanked {dropped : Nat → Bool} (h : s.Alike s') (hs : s.WellFormed wanted)
    (hs' : s'.WellFormed wanted) (n : Nat) {texts : List String}
    (oneLine : ∀ text ∈ texts, '\n' ∉ text.toList)
    (drops : ∀ line ≥ n, dropped line ↔ line ∈ droppedLines (s.allProblems wanted n texts)) :
    (s.readLines wanted n texts).Alike (s'.readLines wanted n (blanked dropped n texts))
      ∧ s'.allProblems wanted n (blanked dropped n texts)
        = (s.allProblems wanted n texts).filter (ImportError.isElsewhere dropped) := by
  induction texts generalizing s s' n with
  | nil => exact ⟨h, rfl⟩
  | cons text rest ih =>
    obtain ⟨first, later⟩ := List.forall_mem_cons.mp oneLine
    obtain ⟨here, after⟩ := dropped_cons drops
    have read : (s.readLine wanted n text).WellFormed wanted := hs.readLine n first
    rw [blanked, allProblems, allProblems, List.filter_append,
      ImportError.filter_isElsewhere (line?_of_mem_problems s n text)]
    by_cases drop : dropped n
    · have stays := (alike_readLine_of_drop hs (here.mp drop)).symm.trans h
      rw [if_pos drop, if_pos drop]
      exact ih stays read hs' (n + 1) later after
    · obtain ⟨alike, problems⟩ := ih (h.readLine hs hs' n text) read (hs'.readLine n first) (n + 1)
        later after
      rw [if_neg drop, if_neg drop, h.problems, problems]
      exact ⟨alike, rfl⟩

theorem readLines_append_empty (s : Import) (n : Nat) (texts : List String) :
    s.readLines wanted n (texts ++ [""]) = s.readLines wanted n texts := by
  induction texts generalizing s n with
  | nil => rfl
  | cons text rest ih => exact ih _ _

end Import
end Export

namespace Text

def blankFrom (dropped : Nat → Bool) : Nat → List Char → List Char
  | _, [] => []
  | n, c :: cs =>
    if c = '\n' then c :: blankFrom dropped (n + 1) cs
    else if dropped n then blankFrom dropped n cs
    else c :: blankFrom dropped n cs

/-- A text with some of its lines replaced by empty ones. Lines are numbered from one. -/
def blankLines (dropped : Nat → Bool) (text : String) : String :=
  String.ofList (blankFrom dropped 1 text.toList)

end Text

namespace Export

theorem blanked_linesFrom (dropped : Nat → Bool) (n : Nat) (line cs : List Char) :
    ∃ rest ∈ [[], [""]], blanked dropped n (Text.linesFrom line cs)
      = Text.linesFrom (if dropped n then [] else line) (Text.blankFrom dropped n cs) ++ rest := by
  induction cs generalizing n line with
  | nil =>
    cases line with
    | nil => exact ⟨[], by simp, by simp [Text.linesFrom, Text.blankFrom, blanked]⟩
    | cons c line =>
      by_cases drop : dropped n
      · exact ⟨[""], by simp, by simp [Text.linesFrom, Text.blankFrom, blanked, drop]⟩
      · exact ⟨[], by simp, by simp [Text.linesFrom, Text.blankFrom, blanked, drop]⟩
  | cons c cs ih =>
    rw [Text.linesFrom, Text.blankFrom]
    by_cases newline : c = '\n'
    · obtain ⟨rest, short, same⟩ := ih (n + 1) []
      refine ⟨rest, short, ?_⟩
      rw [if_pos newline, if_pos newline, blanked, same, Text.linesFrom, if_pos newline, ite_self]
      split_ifs <;> rfl
    · obtain ⟨rest, short, same⟩ := ih n (c :: line)
      refine ⟨rest, short, ?_⟩
      rw [if_neg newline, if_neg newline, same]
      split_ifs
      · rfl
      · rw [Text.linesFrom, if_neg newline]

theorem readLines_blankLines (dropped : Nat → Bool) (s : Import) (wanted : Nat) (text : String) :
    s.readLines wanted 1 (Text.lines (Text.blankLines dropped text))
      = s.readLines wanted 1 (blanked dropped 1 (Text.lines text)) := by
  obtain ⟨rest, short, same⟩ := blanked_linesFrom dropped 1 [] text.toList
  rw [ite_self] at same
  rw [Text.lines, Text.lines, Text.blankLines, String.toList_ofList, same]
  obtain rfl | rfl : rest = [] ∨ rest = [""] := by simpa using short
  · rw [List.append_nil]
  · exact (Import.readLines_append_empty s 1 _).symm

/-- With the dropped lines of a text empty, an import reports what it did before, less their
problems, and the track that it gives packs the same. -/
theorem dropped_lines_inert (text : String) (wanted : Nat) :
    let before := load text wanted
    let dropped := droppedLines before.errors
    let after := load (Text.blankLines dropped.contains text) wanted
    after.errors = before.errors.filter (ImportError.isElsewhere dropped.contains)
      ∧ (∀ p : Pool, p.packSong after.value = p.packSong before.value)
      ∧ Bytecode.encodeSfx after.value = Bytecode.encodeSfx before.value := by
  intro before dropped after
  have oneLine : ∀ line ∈ Text.lines text, '\n' ∉ line.toList :=
    fun _ => Text.noNewline_of_mem_lines
  have started : Import.start.WellFormed wanted := Import.wellFormed_start
  let rest := Import.start.readLines wanted 1 (blanked dropped.contains 1 (Text.lines text))
  have read : after = rest.finish wanted := by
    simp only [after, load, readLines_blankLines, rest]
  have drops : ∀ line ≥ 1, dropped.contains line
      ↔ line ∈ droppedLines (Import.start.allProblems wanted 1 (Text.lines text)) := by
    intro line _
    simp only [dropped, before, errors_load, droppedLines_append, Import.droppedLines_closing,
      List.append_nil, List.contains_iff_mem]
  obtain ⟨alike, kept⟩ :=
    (Import.Alike.refl Import.start).readLines_blanked started started 1 oneLine drops
  have track : before.value.Alike after.value := by
    rw [read]
    exact alike.track
  refine ⟨?_, track.packSong, track.encodeSfx⟩
  have own : rest.errors
      = Import.start.allProblems wanted 1 (blanked dropped.contains 1 (Text.lines text)) :=
    Import.errors_readLines started 1 (noNewline_of_mem_blanked oneLine)
  rw [read, Import.errors_finish, own, kept, alike.closing, ← Import.filter_closing wanted _
    dropped.contains, ← List.filter_append, ← errors_load]

example : droppedLines (load (Text.unlines
      ["TRACK 1 6 150", "MACRO 0 0 -1 1 0 : -128", "PATTERN x", "ORDER 0",
        "ROW 1 : E-3 .. . : ... .. . : ... .. . : ... .. . : ... .. ."]) 1).errors
    = [2, 4, 5] := by
  decide +kernel

end Export
end TuneBank
