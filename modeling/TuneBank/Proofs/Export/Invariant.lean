import TuneBank.Proofs.Export.Cells
import TuneBank.Proofs.Track.Data

/-! What a track looks like after any number of lines. Patterns are made with the length of the
moment; that they all have the length of the track rests on one fact about the counter: before the
wanted header there are none. -/

namespace TuneBank

namespace Text

theorem prefix_of_beforeLastQuote {cs inner : List Char} (h : beforeLastQuote cs = some inner) :
    inner <+: cs := by
  induction cs generalizing inner with
  | nil => exact nomatch h
  | cons c cs ih =>
    rw [beforeLastQuote] at h
    split at h
    · rename_i rest later
      obtain rfl := Option.some.inj h
      exact List.cons_prefix_cons.mpr ⟨rfl, ih later⟩
    · split_ifs at h
      obtain rfl := Option.some.inj h
      exact List.nil_prefix

theorem mem_of_mem_quoted? {line text : String} (h : quoted? line = some text) {c : Char}
    (member : c ∈ text.toList) : c ∈ line.toList := by
  unfold quoted? at h
  split at h
  · cases h
  · rename_i cs dropped
    obtain ⟨inner, found, rfl⟩ := Option.map_eq_some_iff.mp h
    rw [String.toList_ofList] at member
    have within : c ∈ line.toList.dropWhile (· ≠ '"') := by
      rw [dropped]
      exact List.mem_cons_of_mem _ ((prefix_of_beforeLastQuote found).subset member)
    exact (List.dropWhile_suffix _).subset within

theorem noNewline_closeLine {cs : List Char} (h : '\n' ∉ cs) : '\n' ∉ (closeLine cs).toList := by
  rw [closeLine.eq_def]
  split
  · simp_all
  · simp_all

theorem noNewline_of_mem_linesFrom {line cs : List Char} (h : '\n' ∉ line) {l : String}
    (member : l ∈ linesFrom line cs) : '\n' ∉ l.toList := by
  induction cs generalizing line with
  | nil =>
    rw [linesFrom] at member
    split_ifs at member
    · exact absurd member List.not_mem_nil
    · obtain rfl := List.mem_singleton.mp member
      simpa using h
  | cons c cs ih =>
    rw [linesFrom] at member
    split_ifs at member with newline
    · rcases List.mem_cons.mp member with rfl | later
      · exact noNewline_closeLine h
      · exact ih List.not_mem_nil later
    · exact ih (by simp [h, Ne.symm newline]) member

theorem noNewline_of_mem_lines {text line : String} (h : line ∈ lines text) :
    '\n' ∉ line.toList :=
  noNewline_of_mem_linesFrom List.not_mem_nil h

end Text

/-- The driver can play the macro: it has a tick to go on with, and nothing but its end reads as
the end. -/
structure Macro.WellFormed (m : Macro) : Prop where
  nonempty : 1 ≤ m.ticks.length
  bounded : m.ticks.length ≤ 256
  noMarker : loopMarker ∉ m.ticks
  looped : m.loopPoint.toNat < m.ticks.length

namespace Macro

theorem wellFormed_noop : noop.WellFormed := by
  constructor <;> decide

theorem wellFormed_held {ticks : List Int8} (nonempty : 1 ≤ ticks.length)
    (bounded : ticks.length ≤ 256) (noMarker : loopMarker ∉ ticks) :
    (⟨ticks, UInt8.ofNat (ticks.length - 1)⟩ : Macro).WellFormed := by
  refine ⟨nonempty, bounded, noMarker, ?_⟩
  change (UInt8.ofNat (ticks.length - 1)).toNat < ticks.length
  rw [UInt8.toNat_ofNat_of_lt' (by change ticks.length - 1 < 256; omega)]
  omega

theorem wellFormed_ofAuthored {values : List Int8} (noMarker : loopMarker ∉ values)
    (kind : MacroKind) (loopPoint : Option UInt8) :
    (ofAuthored kind values loopPoint).WellFormed := by
  by_cases empty : values.isEmpty
  · rw [ofAuthored, if_pos empty]
    exact wellFormed_noop
  · have some : 1 ≤ values.length :=
      List.length_pos_iff.mpr fun same => empty (List.isEmpty_iff.mpr same)
    have kept : loopMarker ∉ values.take maxLength :=
      fun member => noMarker (List.mem_of_mem_take member)
    have length : (values.take maxLength).length = min 255 values.length := List.length_take
    rw [ofAuthored, if_neg empty]
    dsimp only
    split
    · rename_i point inside
      have looped := (Option.filter_eq_some_iff.mp inside).2
      exact ⟨by rw [length]; omega, by rw [length]; omega, kept, of_decide_eq_true looped⟩
    · split_ifs
      · refine wellFormed_held (by simp) ?_ (by simp [kept, (by decide : loopMarker ≠ 0)])
        rw [List.length_append, length, List.length_singleton]
        omega
      · exact wellFormed_held (by rw [length]; omega) (by rw [length]; omega) kept

end Macro

structure Track.WellFormed (t : Track) : Prop where
  nonempty : 1 ≤ t.patternLength
  bounded : t.patternLength ≤ Pattern.maxRows
  rows : ∀ p ∈ t.patterns, p.rows = t.patternLength
  data : ∀ p ∈ t.patterns, p.data.length = p.rows * 5
  fewPatterns : t.patterns.length ≤ 256
  fewFrames : t.order.length ≤ 256
  fewInstruments : t.instruments.length ≤ 256
  fewMacros : ∀ kind, (t.macros.get kind).length ≤ 256
  macros : ∀ kind, ∀ m ∈ t.macros.get kind, m.WellFormed
  cells : t.Exportable
  title : '\n' ∉ t.title.toList
  names : ∀ i ∈ t.instruments, '\n' ∉ i.name.toList

theorem mem_setGrowing {α : Type} {filler a b : α} {l : List α} {i : Nat}
    (h : b ∈ setGrowing filler l i a) : b ∈ l ∨ b = filler ∨ b = a := by
  rcases List.mem_or_eq_of_mem_set h with grown | same
  · rcases List.mem_append.mp grown with old | gap
    · exact .inl old
    · exact .inr (.inl (List.eq_of_mem_replicate gap))
  · exact .inr (.inr same)

theorem length_setGrowing_le {α : Type} (filler a : α) {l : List α} (h : l.length ≤ 256)
    (i : UInt8) : (setGrowing filler l i.toNat a).length ≤ 256 := by
  have small := i.toNat_lt
  rw [length_setGrowing]
  omega

theorem Track.mem_modifySlot {t : Track} {slot : UInt8} {f : Pattern → Pattern} {p : Pattern}
    (h : p ∈ (t.modifySlot slot f).patterns) : ∃ q ∈ t.patterns, p = q ∨ p = f q := by
  obtain ⟨i, found⟩ := List.mem_iff_getElem?.mp h
  rw [modifySlot, List.getElem?_modify] at found
  obtain ⟨q, old, same⟩ := Option.map_eq_some_iff.mp found
  refine ⟨q, List.mem_of_getElem? old, ?_⟩
  split_ifs at same
  · exact .inr same.symm
  · exact .inl same.symm

namespace Track.WellFormed
variable {t : Track} (h : t.WellFormed)
include h

theorem setMacro (kind : MacroKind) (i : UInt8) {m : Macro} (fresh : m.WellFormed) :
    (t.setMacro kind i.toNat m).WellFormed := by
  refine { h with fewMacros := fun other => ?_, macros := fun other n member => ?_ }
  · rw [Track.setMacro, PerKind.get_set]
    split_ifs
    · exact length_setGrowing_le _ _ (h.fewMacros kind) i
    · exact h.fewMacros other
  · rw [Track.setMacro, PerKind.get_set] at member
    split_ifs at member
    · rcases mem_setGrowing member with old | rfl | rfl
      · exact h.macros kind n old
      · exact Macro.wellFormed_noop
      · exact fresh
    · exact h.macros other n member

theorem setInstrument (i : UInt8) {inst : Instrument} (oneLine : '\n' ∉ inst.name.toList) :
    (t.setInstrument i.toNat inst).WellFormed := by
  refine { h with
    fewInstruments := length_setGrowing_le _ _ h.fewInstruments i
    names := fun other member => ?_ }
  rcases mem_setGrowing member with old | rfl | rfl
  · exact h.names other old
  · exact List.not_mem_nil
  · exact oneLine

theorem setFrame (i : UInt8) (frame : Frame) : (t.setFrame i.toNat frame).WellFormed :=
  { h with fewFrames := length_setGrowing_le _ _ h.fewFrames i }

theorem ensureSlot (slot : UInt8) : (t.ensureSlot slot).WellFormed := by
  have small := slot.toNat_lt
  refine { h with
    rows := fun p member => ?_
    data := fun p _ => p.length_data
    fewPatterns := ?_
    cells := h.cells.ensureSlot slot }
  · rcases List.mem_append.mp member with old | new
    · exact h.rows p old
    · rw [List.eq_of_mem_replicate new]
      exact Pattern.rows_empty t.patternLength
  · have few := h.fewPatterns
    rw [Track.ensureSlot, List.length_append, List.length_replicate]
    omega

theorem setRow (slot : UInt8) (row : Nat) {cells : PerChannel Cell}
    (fresh : ∀ c, (cells.get c).Exportable c) :
    (t.modifySlot slot (·.setRow row cells)).WellFormed := by
  refine { h with
    rows := fun p member => ?_
    data := fun p _ => p.length_data
    fewPatterns := ?_
    cells := h.cells.setRow slot row fresh }
  · obtain ⟨q, old, rfl | rfl⟩ := mem_modifySlot member
    · exact h.rows p old
    · exact (Pattern.rows_setRow q row cells).trans (h.rows q old)
  · rw [modifySlot, List.length_modify]
    exact h.fewPatterns

end Track.WellFormed

theorem Track.wellFormed_new : (Track.new "").WellFormed := by
  have none (kind : MacroKind) : (Track.new "").macros.get kind = [] := by cases kind <;> rfl
  constructor
  case fewMacros => simp [none]
  case macros => simp [none]
  all_goals simp [Track.Exportable, Track.new, defaultPatternLength, Pattern.maxRows]

namespace Export

theorem exists_read?_of_decode {line : String} {r : Record} (h : decode line = .record r) :
    ∃ kind fields, Text.fields line = kind.name :: fields
      ∧ Record.read? kind line fields = some r := by
  unfold decode at h
  split at h
  · exact nomatch h
  · rename_i name fields cut
    split at h
    · exact nomatch h
    · rename_i kind named
      split at h
      · rename_i read
        obtain rfl := Decoded.record.inj h
        have same : kind.name = name := by simpa using List.find?_some named
        exact ⟨kind, fields, same ▸ cut, read⟩
      · exact nomatch h

def Record.WellFormed : Record → Prop
  | title text => '\n' ∉ text.toList
  | instrument _ i => '\n' ∉ i.name.toList
  | trackHeader patternLength _ _ _ => 1 ≤ patternLength ∧ patternLength ≤ Pattern.maxRows
  | row _ cells _ => ∀ c, (cells.get c).Exportable c
  | macroDef _ | order _ _ | patternSelect _ => True

theorem Record.shape_of_read? {kind : RecordKind} {line : String} {fields : List String}
    {r : Record} (h : read? kind line fields = some r) :
    r.kind = kind ∧ ('\n' ∉ line.toList → r.WellFormed) := by
  have quoted {text : String} (read : Text.quoted? line = some text)
      (oneLine : '\n' ∉ line.toList) : '\n' ∉ text.toList :=
    fun member => oneLine (Text.mem_of_mem_quoted? read member)
  cases kind with
  | title =>
    obtain ⟨text, read, rfl⟩ := Option.map_eq_some_iff.mp h
    exact ⟨rfl, quoted read⟩
  | macroDef =>
    simp only [read?, readMacro?] at h
    split at h
    · simp only [bind, pure, Option.bind_eq_some_iff, Option.some.injEq] at h
      obtain ⟨_, -, _, -, _, -, _, -, _, -, _, -, _, -, rfl⟩ := h
      exact ⟨rfl, fun _ => trivial⟩
    · exact nomatch h
  | instrument =>
    simp only [read?, readInstrument?] at h
    split at h
    · simp only [bind, pure, Option.bind_eq_some_iff, Option.some.injEq] at h
      obtain ⟨_, -, _, -, name, read, rfl⟩ := h
      exact ⟨rfl, quoted read⟩
    · exact nomatch h
  | trackHeader =>
    simp only [read?, readTrackHeader?] at h
    split at h
    · simp only [bind, pure, Option.bind_eq_some_iff] at h
      obtain ⟨length, read, _, -, _, -, h⟩ := h
      split_ifs at h with zero
      obtain rfl := Option.some.inj h
      have small : length < Pattern.maxRows + 1 :=
        of_decide_eq_true (Option.filter_eq_some_iff.mp read).2
      exact ⟨rfl, fun _ => ⟨by omega, by omega⟩⟩
    · exact nomatch h
  | order =>
    simp only [read?, readOrder?] at h
    split at h
    · split_ifs at h
      simp only [bind, pure, Option.bind_eq_some_iff, Option.some.injEq] at h
      obtain ⟨_, -, _, -, rfl⟩ := h
      exact ⟨rfl, fun _ => trivial⟩
    · exact nomatch h
  | patternSelect =>
    simp only [read?, readPatternSelect?] at h
    split at h
    · obtain ⟨slot, -, rfl⟩ := Option.map_eq_some_iff.mp h
      exact ⟨rfl, fun _ => trivial⟩
    · exact nomatch h
  | row =>
    obtain ⟨row, cells, unknownNotes, rfl, exportable⟩ := exportable_of_readRow? h
    exact ⟨rfl, fun _ => exportable⟩

theorem wellFormed_of_decode {line : String} {r : Record} (oneLine : '\n' ∉ line.toList)
    (h : decode line = .record r) : r.WellFormed := by
  obtain ⟨_, _, -, read⟩ := exists_read?_of_decode h
  exact (Record.shape_of_read? read).2 oneLine

namespace Import

structure WellFormed (wanted : Nat) (s : Import) : Prop where
  track : s.track.WellFormed
  unopened : s.tracksSeen < wanted → s.track.patterns = []

variable {wanted : Nat} {s : Import}

theorem wellFormed_start : start.WellFormed wanted :=
  ⟨Track.wellFormed_new, fun _ => rfl⟩

theorem WellFormed.apply (h : s.WellFormed wanted) (line : Nat) {r : Record}
    (fresh : r.WellFormed) (own : s.passesOver wanted r.kind = false) :
    (s.apply wanted line r).WellFormed wanted := by
  cases r with
  | title text => exact ⟨{ h.track with title := fresh }, h.unopened⟩
  | macroDef m =>
    rw [Import.apply, readMacro]
    split
    · rename_i content accepted
      unfold MacroRecord.accepted? at accepted
      split_ifs at accepted with marked
      obtain rfl := Option.some.inj accepted
      have noMarker : Macro.loopMarker ∉ m.values := by
        simpa [MacroRecord.holdsMarker] using marked
      exact ⟨h.track.setMacro m.kind m.index (Macro.wellFormed_ofAuthored noMarker _ _), h.unopened⟩
    · exact ⟨h.track, h.unopened⟩
  | instrument index i => exact ⟨h.track.setInstrument index fresh, h.unopened⟩
  | trackHeader patternLength speed tempo name =>
    simp only [Import.apply, readTrackHeader]
    by_cases opens : s.tracksSeen + 1 = wanted
    · rw [if_pos opens]
      -- the length changes only here, where no pattern has been made with the old one
      have none : s.track.patterns = [] := h.unopened (by omega)
      refine ⟨{ h.track with nonempty := fresh.1, bounded := fresh.2, rows := ?_ }, fun _ => none⟩
      simp [none]
    · rw [if_neg opens]
      exact ⟨h.track, fun before => h.unopened (Nat.lt_of_succ_lt before)⟩
  | order frame slots => exact ⟨h.track.setFrame frame slots, h.unopened⟩
  | patternSelect slot => exact ⟨h.track, h.unopened⟩
  | row row cells unknownNotes =>
    have opened : s.tracksSeen = wanted := by
      simpa [passesOver, Record.kind, RecordKind.isSectioned] using own
    simp only [Import.apply, readRow]
    split_ifs
    · exact ⟨(h.track.ensureSlot s.slot).setRow s.slot row fresh,
        fun before => absurd opened (Nat.ne_of_lt before)⟩
    · exact ⟨h.track.ensureSlot s.slot, fun before => absurd opened (Nat.ne_of_lt before)⟩

theorem WellFormed.readLine (h : s.WellFormed wanted) (line : Nat) {text : String}
    (oneLine : '\n' ∉ text.toList) : (s.readLine wanted line text).WellFormed wanted := by
  unfold Import.readLine
  split
  · exact h
  · split_ifs
    · exact h
    · exact ⟨h.track, h.unopened⟩
  · rename_i r decoded
    split_ifs with passed
    · exact h
    · exact h.apply line (wellFormed_of_decode oneLine decoded) (Bool.eq_false_iff.mpr passed)

theorem WellFormed.readLines (h : s.WellFormed wanted) (line : Nat) {texts : List String}
    (oneLine : ∀ text ∈ texts, '\n' ∉ text.toList) :
    (s.readLines wanted line texts).WellFormed wanted := by
  induction texts generalizing s line with
  | nil => exact h
  | cons text texts ih =>
    obtain ⟨first, later⟩ := List.forall_mem_cons.mp oneLine
    exact ih (h.readLine line first) (line + 1) later

end Import

theorem wellFormed_load (text : String) (wanted : Nat) : (load text wanted).value.WellFormed :=
  (Import.wellFormed_start.readLines 1 fun _ => Text.noNewline_of_mem_lines).track

theorem exportable_load (text : String) (wanted : Nat) : (load text wanted).value.Exportable :=
  (wellFormed_load text wanted).cells

/-- The track is well formed after every line of every text. -/
theorem track_wellFormed_after_each_line (text : String) (wanted : Nat) :
    (∀ n, (Import.start.readLines wanted 1 ((Text.lines text).take n)).track.WellFormed)
      ∧ (load text wanted).value.WellFormed := by
  refine ⟨fun n => ?_, wellFormed_load text wanted⟩
  exact (Import.wellFormed_start.readLines 1 fun line member =>
    Text.noNewline_of_mem_lines (List.mem_of_mem_take member)).track

end Export

end TuneBank
