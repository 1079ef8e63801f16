import Mathlib.Data.List.Forall2
import TuneBank.Proofs.Export.Cells
import TuneBank.Proofs.Text.Fields

/-! The text export as a printer writes it. A record is printed as one line: fields with blanks
between them, and at the end a name in quotes where the record has one. Numbers may have zeros
before them, macro values follow a colon or their count, and columns without an effect may stand
among those that have one. -/

namespace TuneBank

@[mk_iff]
structure Macro.Exportable (m : Macro) : Prop where
  short : m.ticks.length ≤ maxLength
  noMarker : ∀ v ∈ m.ticks, v ≠ loopMarker
  looped : m.loopPoint.toNat < m.ticks.length

instance (m : Macro) : Decidable m.Exportable :=
  haveI : Decidable (∀ v ∈ m.ticks, v ≠ Macro.loopMarker) := List.decidableBAll _ _
  decidable_of_iff' _ m.exportable_iff

namespace Export

open List (Forall₂)
open Text (Base Spaced Gap SpellsInt)

inductive NumberColumn (blank : String) : Option UInt8 → String → Prop
  | none : NumberColumn blank none blank
  | some {n : UInt8} {field : String} (h : Base.hex.Spells n.toNat field) :
    NumberColumn blank (some n) field

inductive EffectColumns : List Effect → List String → Prop
  | nil : EffectColumns [] []
  | blank {es : List Effect} {fields : List String} (later : EffectColumns es fields) :
    EffectColumns es ("..." :: fields)
  | effect (e : Effect) {es : List Effect} {fields : List String}
    (later : EffectColumns es fields) : EffectColumns (e :: es) (e.label :: fields)

inductive CellColumns (cell : Cell) : List String → Prop
  | mk {instrument volume : String} {effects : List String}
    (hi : NumberColumn ".." cell.instrument instrument)
    (hv : NumberColumn "." cell.volume volume) (he : EffectColumns cell.effects effects)
    (few : effects.length ≤ Cell.maxEffects) :
    CellColumns cell (cell.note.label :: instrument :: volume :: effects)

inductive Reference : Option UInt8 → String → Prop
  | none {field : String} (h : SpellsInt (-1) field) : Reference none field
  | some {n : UInt8} {field : String} (h : Base.decimal.Spells n.toNat field) :
    Reference (some n) field

inductive ValuesLead (count : Nat) : String → Prop
  | colon : ValuesLead count ":"
  | count {field : String} (h : Base.decimal.Spells count field) : ValuesLead count field

structure Named (fields : List String) (name line : String) : Prop where
  chars : ∃ front gap, Spaced fields front ∧ Gap gap
    ∧ line.toList = front ++ gap ++ '"' :: (name.toList ++ ['"'])

/-- The line is the record in print. -/
inductive Prints : Record → String → Prop
  | title {text line : String} (h : Named [RecordKind.title.name] text line) :
    Prints (.title text) line
  | macroDef {m : MacroRecord} {kind index loopPoint release mode lead line : String}
    {values : List String} (hk : Base.decimal.Spells m.kind.index kind)
    (hi : Base.decimal.Spells m.index.toNat index) (hl : SpellsInt m.loopPoint loopPoint)
    (hr : SpellsInt m.release release) (hm : SpellsInt m.mode mode)
    (ht : ValuesLead m.values.length lead)
    (hv : Forall₂ (fun v field => SpellsInt (Int8.toInt v) field) m.values values)
    (h : Spaced (RecordKind.macroDef.name :: kind :: index :: loopPoint :: release :: mode :: lead
      :: values) line.toList) :
    Prints (.macroDef m) line
  | instrument {number : UInt8} {i : Instrument} {index line : String} {references : PerKind String}
    (hi : Base.decimal.Spells number.toNat index)
    (hr : ∀ kind, Reference (i.macros.get kind) (references.get kind))
    (h : Named (RecordKind.instrument.name :: index :: references.toList) i.name line) :
    Prints (.instrument number i) line
  | trackHeader {patternLength tempo : Nat} {speed : UInt8} {name length ticks beat line : String}
    (hl : Base.decimal.Spells patternLength length) (hs : Base.decimal.Spells speed.toNat ticks)
    (ht : Base.decimal.Spells tempo beat)
    (h : Named [RecordKind.trackHeader.name, length, ticks, beat] name line) :
    Prints (.trackHeader patternLength speed tempo name) line
  | order {number : UInt8} {frame : Frame} {index line : String} {slots : PerChannel String}
    (hi : Base.hex.Spells number.toNat index)
    (hs : ∀ c, Base.hex.Spells (frame.get c).toNat (slots.get c))
    (h : Spaced (RecordKind.order.name :: index :: ":" :: slots.toList) line.toList) :
    Prints (.order number frame) line
  | patternSelect {slot : UInt8} {number line : String} (hs : Base.hex.Spells slot.toNat number)
    (h : Spaced [RecordKind.patternSelect.name, number] line.toList) :
    Prints (.patternSelect slot) line
  | row {number : Nat} {cells : PerChannel Cell} {index line : String}
    {groups : PerChannel (List String)} (hi : Base.hex.Spells number index)
    (hg : ∀ c, CellColumns (cells.get c) (groups.get c))
    (h : Spaced (RecordKind.row.name :: index :: groups.toList.flatMap (":" :: ·)) line.toList) :
    Prints (.row number cells []) line

/-- The numbers of the record are in the ranges of their fields, and its names stay on one line. -/
def Record.Printable : Record → Prop
  | title text => '\n' ∉ text.toList
  | macroDef m => m.values.length < UInt64.size
    ∧ ∀ i ∈ [m.loopPoint, m.release, m.mode], -0x80000000 ≤ i ∧ i < 0x80000000
  | instrument _ i => '\n' ∉ i.name.toList
  | trackHeader patternLength _ tempo name => 1 ≤ patternLength ∧ patternLength ≤ Pattern.maxRows
    ∧ tempo < UInt16.size ∧ '\n' ∉ name.toList
  | order _ _ => True
  | patternSelect _ => True
  | row number cells unknown =>
    number < UInt16.size ∧ unknown = [] ∧ ∀ c, (cells.get c).Exportable c

structure Section where
  name : String
  patternLength : Nat
  speed : UInt8
  order : List Frame
  patterns : List Pattern

structure File where
  title : String
  macros : PerKind (List Macro)
  instruments : List Instrument
  sections : List Section

def File.track (f : File) (s : Section) : Track where
  title := f.title
  speed := s.speed
  patternLength := s.patternLength
  tempo := Track.requiredTempo
  macros := f.macros
  instruments := f.instruments
  order := s.order
  patterns := s.patterns

/-! Records of a file, in the order in which they are printed -/

def numbered {α : Type} (records : Nat → α → List Record) : Nat → List α → List Record
  | _, [] => []
  | i, a :: as => records i a ++ numbered records (i + 1) as

theorem exists_of_mem_numbered {α : Type} {records : Nat → α → List Record} {as : List α} {i : Nat}
    {r : Record} (member : r ∈ numbered records i as) :
    ∃ j < i + as.length, ∃ a ∈ as, r ∈ records j a := by
  induction as generalizing i with
  | nil => exact absurd member List.not_mem_nil
  | cons a as ih =>
    rcases List.mem_append.mp member with here | later
    · exact ⟨i, Nat.lt_add_of_pos_right (Nat.succ_pos _), a, List.mem_cons_self, here⟩
    · obtain ⟨j, bound, b, there, own⟩ := ih later
      rw [List.length_cons]
      exact ⟨j, by omega, b, List.mem_cons_of_mem a there, own⟩

def macroRecords (kind : MacroKind) (i : Nat) (m : Macro) : List Record :=
  [.macroDef ⟨kind, UInt8.ofNat i, m.loopPoint.toNat, -1, 0, m.ticks⟩]

def instrumentRecords (i : Nat) (inst : Instrument) : List Record :=
  [.instrument (UInt8.ofNat i) inst]

def frameRecords (i : Nat) (frame : Frame) : List Record := [.order (UInt8.ofNat i) frame]

def rowRecords (row : Nat) (cells : PerChannel Cell) : List Record := [.row row cells []]

def patternRecords (i : Nat) (p : Pattern) : List Record :=
  .patternSelect (UInt8.ofNat i) :: numbered rowRecords 0 p.cells

def Section.records (s : Section) : List Record :=
  .trackHeader s.patternLength s.speed Track.requiredTempo s.name
    :: (numbered frameRecords 0 s.order ++ numbered patternRecords 0 s.patterns)

def File.records (f : File) : List Record :=
  .title f.title
    :: (MacroKind.all.flatMap (fun kind => numbered (macroRecords kind) 0 (f.macros.get kind))
      ++ (numbered instrumentRecords 0 f.instruments ++ f.sections.flatMap Section.records))

theorem isSectioned_of_mem_section {sec : Section} {r : Record}
    (member : r ∈ numbered frameRecords 0 sec.order ++ numbered patternRecords 0 sec.patterns) :
    r.kind.isSectioned = true := by
  rcases List.mem_append.mp member with frame | pattern
  · obtain ⟨i, -, a, -, own⟩ := exists_of_mem_numbered frame
    obtain rfl := List.mem_singleton.mp own
    rfl
  · obtain ⟨i, -, p, -, own⟩ := exists_of_mem_numbered pattern
    rcases List.mem_cons.mp own with rfl | row
    · rfl
    · obtain ⟨j, -, cells, -, own⟩ := exists_of_mem_numbered row
      obtain rfl := List.mem_singleton.mp own
      rfl

/-- The text is the file in print. -/
def File.Prints (f : File) (text : String) : Prop :=
  ∃ lines, Forall₂ Export.Prints f.records lines ∧ text = Text.unlines lines

/-! Files that can be printed -/

@[mk_iff]
structure Section.Exportable (s : Section) : Prop where
  name : '\n' ∉ s.name.toList
  nonempty : 1 ≤ s.patternLength
  bounded : s.patternLength ≤ Pattern.maxRows
  frames : s.order.length ≤ 256
  slots : s.patterns.length ≤ 256
  rows : ∀ p ∈ s.patterns, p.rows = s.patternLength
  cells : ∀ p ∈ s.patterns, ∀ cells ∈ p.cells, ∀ c, (cells.get c).Exportable c

instance (s : Section) : Decidable s.Exportable := decidable_of_iff' _ s.exportable_iff

@[mk_iff]
structure File.Exportable (f : File) : Prop where
  title : '\n' ∉ f.title.toList
  fewMacros : ∀ kind, (f.macros.get kind).length ≤ 256
  macros : ∀ kind, ∀ m ∈ f.macros.get kind, m.Exportable
  fewInstruments : f.instruments.length ≤ 256
  instruments : ∀ i ∈ f.instruments, '\n' ∉ i.name.toList
  sections : ∀ s ∈ f.sections, s.Exportable

instance (f : File) : Decidable f.Exportable := decidable_of_iff' _ f.exportable_iff

/-! What they print fits the fields of an import -/

theorem printable_macro {m : Macro} (exportable : m.Exportable) (kind : MacroKind) (i : UInt8) :
    (Record.macroDef ⟨kind, i, m.loopPoint.toNat, -1, 0, m.ticks⟩).Printable := by
  have short : m.ticks.length ≤ 255 := exportable.short
  have low : m.loopPoint.toNat < 256 := m.loopPoint.toNat_lt
  refine ⟨Nat.lt_of_le_of_lt short (by decide), fun i member => ?_⟩
  simp only [List.mem_cons, List.not_mem_nil, or_false] at member
  rcases member with rfl | rfl | rfl
  · constructor <;> omega
  · decide
  · decide

theorem printable_section {sec : Section} (exportable : sec.Exportable) :
    ∀ r ∈ sec.records, r.Printable := by
  intro r member
  rcases List.mem_cons.mp member with rfl | later
  · exact ⟨exportable.nonempty, exportable.bounded, by decide, exportable.name⟩
  · rcases List.mem_append.mp later with frame | pattern
    · obtain ⟨i, -, a, -, own⟩ := exists_of_mem_numbered frame
      obtain rfl := List.mem_singleton.mp own
      trivial
    · obtain ⟨i, -, p, there, own⟩ := exists_of_mem_numbered pattern
      rcases List.mem_cons.mp own with rfl | row
      · trivial
      · obtain ⟨j, bound, cells, here, own⟩ := exists_of_mem_numbered row
        obtain rfl := List.mem_singleton.mp own
        have full : p.cells.length = sec.patternLength := exportable.rows p there
        have most : sec.patternLength ≤ 256 := exportable.bounded
        refine ⟨?_, rfl, exportable.cells p there cells here⟩
        change j < 65536
        omega

theorem printable_records {f : File} (exportable : f.Exportable) :
    ∀ r ∈ f.records, r.Printable := by
  intro r member
  rcases List.mem_cons.mp member with rfl | later
  · exact exportable.title
  · rcases List.mem_append.mp later with macros | later
    · obtain ⟨kind, -, own⟩ := List.mem_flatMap.mp macros
      obtain ⟨i, -, m, there, own⟩ := exists_of_mem_numbered own
      obtain rfl := List.mem_singleton.mp own
      exact printable_macro (exportable.macros kind m there) kind _
    · rcases List.mem_append.mp later with instruments | sections
      · obtain ⟨i, -, inst, there, own⟩ := exists_of_mem_numbered instruments
        obtain rfl := List.mem_singleton.mp own
        exact exportable.instruments inst there
      · obtain ⟨sec, there, own⟩ := List.mem_flatMap.mp sections
        exact printable_section (exportable.sections sec there) r own

end Export

end TuneBank
