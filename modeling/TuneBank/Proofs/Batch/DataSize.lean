import TuneBank.Proofs.Batch.Listing
import TuneBank.Sizes

/-! The operands of a listing, counted line by line, against the sizes that are reported. The lookup
tables of the driver are data too, but are in no report; and the mode of a sound effect is reported,
but is a symbol and not data. -/

namespace TuneBank

namespace Listing

/-! Counting lines -/

/-- The operands of the lines of data whose label counts, given the label that stands above. -/
def countOperands (counts : String → Bool) : String → List Statement → Nat
  | _, [] => 0
  | above, .nothing :: rest | above, .constant _ _ :: rest => countOperands counts above rest
  | _, .label name :: rest => countOperands counts name rest
  | above, .data operands :: rest =>
    (if counts above then operands.length else 0) + countOperands counts above rest

/-- The operands in a listing. Lines before the first label have none above. -/
def operandCount? (counts : String → Bool) (text : String) : Option Nat :=
  ((Text.lines text).mapM statement?).map (countOperands counts "")

def dataCount (counts : String → Bool) (blocks : List Block) : Nat :=
  Cost.total (blocks.map fun b => if counts b.label then b.data.length else 0)

section
variable {counts : String → Bool} {blocks : List Block}

theorem dataCount_append (counts : String → Bool) (first second : List Block) :
    dataCount counts (first ++ second) = dataCount counts first + dataCount counts second := by
  rw [dataCount, List.map_append, Cost.total_append]
  rfl

theorem dataCount_of_forall (all : ∀ b ∈ blocks, counts b.label) :
    dataCount counts blocks = Cost.total (blocks.map fun b => b.data.length) := by
  refine congrArg Cost.total (List.map_congr_left fun b member => ?_)
  rw [if_pos (all b member)]

theorem dataCount_of_none (none : ∀ b ∈ blocks, counts b.label = false) :
    dataCount counts blocks = 0 := by
  have zero := Cost.total_map_const 0 blocks
  rw [Nat.mul_zero] at zero
  rw [← zero]
  refine congrArg Cost.total (List.map_congr_left fun b member => ?_)
  simp [none b member]

theorem length_of_mapM {α β : Type} {f : α → Option β} {as : List α} {bs : List β}
    (h : as.mapM f = some bs) : bs.length = as.length := by
  induction as generalizing bs with
  | nil =>
    obtain rfl : [] = bs := by simpa using h
    rfl
  | cons a as ih =>
    simp only [List.mapM_cons, bind, pure, Option.bind_eq_some_iff, Option.some.injEq] at h
    obtain ⟨b, -, rest, read, rfl⟩ := h
    rw [List.length_cons, ih read, List.length_cons]

theorem countOperands_of_blocks? {defs : List (String × Int)} {statements : List Statement}
    {lead : List Datum} (h : blocks? defs statements = some (lead, blocks)) (above : String) :
    countOperands counts above statements
      = (if counts above then lead.length else 0) + dataCount counts blocks := by
  induction statements generalizing lead blocks above with
  | nil =>
    obtain ⟨rfl, rfl⟩ : [] = lead ∧ [] = blocks := by simpa [blocks?] using h
    simp [countOperands, dataCount]
  | cons s statements ih =>
    cases s with
    | nothing => exact ih h above
    | constant name value => exact ih h above
    | label name =>
      simp only [blocks?, bind, pure, Option.bind_eq_some_iff, Option.some.injEq,
        Prod.mk.injEq] at h
      obtain ⟨⟨lead, blocks⟩, laid, rfl, rfl⟩ := h
      simp [countOperands, ih laid, dataCount]
    | data operands =>
      simp only [blocks?, bind, pure, Option.bind_eq_some_iff, Option.some.injEq,
        Prod.mk.injEq] at h
      obtain ⟨ds, read, ⟨more, own⟩, laid, rfl, rfl⟩ := h
      simp only [countOperands, ih laid, List.length_append, length_of_mapM read]
      split_ifs <;> omega

theorem operandCount?_of_assemble? {text : String} (h : assemble? text = some blocks) :
    operandCount? counts text = some (dataCount counts blocks) := by
  simp only [assemble?, bind, pure, Option.bind_eq_some_iff] at h
  obtain ⟨statements, read, defs, -, ⟨lead, laid⟩, whole, assembled⟩ := h
  cases lead with
  | cons d lead => simp at assembled
  | nil =>
    obtain rfl : laid = blocks := by simpa using assembled
    have counted : countOperands counts "" statements = _ := countOperands_of_blocks? whole ""
    rw [operandCount?, read, Option.map_some, counted]
    simp

end

/-! Sizes of the tables -/

def tuningLabels : List String := ["data_music_tuning_low", "data_music_tuning_high"]

/-- The labels of the tables that are the same for every run. -/
def lookupLabels : List String := tuningLabels ++ ["data_music_multiply"]

theorem dataCount_driverBlocks (counts : String → Bool) :
    dataCount counts driverBlocks = (if counts "data_music_tuning_low" then 96 else 0)
      + ((if counts "data_music_tuning_high" then 96 else 0)
      + ((if counts "data_music_multiply" then 256 else 0) + 0)) := by
  have tuning : DriverTables.tuning.length = 96 := by
    simp [DriverTables.tuning, DriverTables.tuningLength]
  have scaling : DriverTables.scaling.length = 256 := by decide +kernel
  simp only [dataCount, driverBlocks, List.map_cons, List.map_nil, Cost.total_cons, Cost.total_nil,
    List.length_map, tuning, scaling]

theorem total_entryBlocks {α : Type} (stem : String) (data : α → List Datum) (entries : List α) :
    Cost.total ((entryBlocks stem data entries).map fun b => b.data.length)
      = Cost.total (entries.map fun e => (data e).length) := by
  refine congrArg Cost.total (List.ext_getElem (by simp [entryBlocks]) fun i _ _ => ?_)
  simp [entryBlocks]

theorem total_pointerBlocks (table stem : String) (count : Nat) :
    Cost.total ((pointerBlocks table stem count).map fun b => b.data.length)
      = count * Cost.pointer := by
  simp [pointerBlocks, Cost.pointer]
  omega

section
variable (set : PackedSet)

theorem total_macroData : Cost.total (set.pool.macros.map fun e => (macroData e).length)
      + set.pool.macros.length * Cost.pointer = (Sizes.of set).macros := by
  rw [← Cost.total_map_const, ← Cost.total_map_add]
  refine congrArg Cost.total (List.map_congr_left fun e _ => ?_)
  rw [macroData, List.length_map, Macro.length_packed, Nat.add_comm, Cost.ofMacro]

theorem length_instrumentData :
    (set.pool.instruments.flatMap instrumentData).length = (Sizes.of set).instruments := by
  have each (e : Entry (PerKind UInt8) InstrumentOrigin) :
      (instrumentData e).length = Cost.instrument := rfl
  rw [Cost.length_flatMap, List.map_congr_left fun e _ => each e, Cost.total_map_const]
  rfl

theorem total_orderData : Cost.total (set.songs.map fun e => (orderData e).length)
      + set.songs.length * Cost.pointer = (Sizes.of set).orders := by
  have frame (f : PerVoice UInt8) : (f.toList.map byteDatum).length = Cost.frame := by
    simp; rfl
  rw [← Cost.total_map_const, ← Cost.total_map_add]
  refine congrArg Cost.total (List.map_congr_left fun e _ => ?_)
  rw [orderData, Cost.length_flatMap, List.map_congr_left fun f _ => frame f,
    Cost.total_map_const, Nat.add_comm, Cost.ofOrder]

theorem total_patternData : Cost.total (set.pool.patterns.map fun e => (patternData e).length)
      + set.pool.patterns.length * Cost.pointer = (Sizes.of set).patterns := by
  rw [← Cost.total_map_const, ← Cost.total_map_add]
  refine congrArg Cost.total (List.map_congr_left fun e _ => ?_)
  rw [patternData, List.length_map, Nat.add_comm, Cost.ofPattern]

variable {set}

theorem total_sfxData (fits : set.Printable) :
    Cost.total ((set.pool.sfx.zip set.sfxIdents).map fun e => (sfxData e.1).length)
      + set.pool.sfx.length * Cost.pointer + set.pool.sfx.length = (Sizes.of set).sfx := by
  have modes := Cost.total_map_const 1 set.pool.sfx
  rw [Nat.mul_one] at modes
  rw [fits.map_zip_sfx fun e => (sfxData e).length, ← Cost.total_map_const, ← Cost.total_map_add,
    ← modes, ← Cost.total_map_add]
  refine congrArg Cost.total (List.map_congr_left fun e _ => ?_)
  rw [sfxData, List.length_map, Cost.ofSfx]
  omega

theorem exists_image_eq (fits : set.Printable) :
    ∃ tables, image set = tables ++ driverBlocks
      ∧ Cost.total (tables.map fun b => b.data.length) + set.pool.sfx.length
        = (Sizes.of set).total := by
  have macros := total_macroData set
  have orders := total_orderData set
  have patterns := total_patternData set
  have sfx := total_sfxData fits
  have misc : set.songs.length + set.songs.length = (Sizes.of set).misc :=
    (Nat.mul_two _).symm
  refine ⟨_, rfl, ?_⟩
  simp only [List.map_append, Cost.total_append, total_entryBlocks, total_pointerBlocks,
    List.map_cons, List.map_nil, Cost.total_cons, Cost.total_nil, length_instrumentData,
    List.length_map, Sizes.total]
  omega

theorem not_mem_lookupLabels {tables : List Block} (whole : image set = tables ++ driverBlocks) :
    ∀ b ∈ tables, b.label ∉ lookupLabels := by
  intro b member lookup
  have distinct := nodup_labels set
  rw [whole, List.map_append, List.nodup_append] at distinct
  exact distinct.2.2 _ (List.mem_map_of_mem member) _ lookup rfl

end
end Listing

namespace Batch

/-- The lines of data in the listing of a run hold as many operands as the report has bytes, but for
the modes of the sound effects; the tables that are the same for every run come on top. -/
theorem operands_of_listing (calls : List Call) {memory : String} (oneLine : '\n' ∉ memory.toList) :
    let set := (new.addAll calls).set
    let listing := Listing.text (Listing.music set memory)
    (∃ operands, Listing.operandCount? (· ∉ Listing.lookupLabels) listing = some operands
        ∧ operands + set.pool.sfx.length = (Sizes.of set).total)
      ∧ Listing.operandCount? (· ∈ Listing.tuningLabels) listing = some 192
      ∧ Listing.operandCount? (· = "data_music_multiply") listing = some 256 := by
  intro set listing
  have fits : set.Printable := PackedSet.Printable.new.addAll calls
  have assembled := Listing.assemble?_music fits oneLine
  obtain ⟨tables, whole, size⟩ := Listing.exists_image_eq fits
  have apart := Listing.not_mem_lookupLabels whole
  have count (counts : String → Bool) : Listing.operandCount? counts listing
      = some (Listing.dataCount counts tables
        + Listing.dataCount counts Listing.driverBlocks) := by
    rw [Listing.operandCount?_of_assemble? assembled, whole, Listing.dataCount_append]
  refine ⟨⟨_, count _, ?_⟩, ?_, ?_⟩
  · rw [Listing.dataCount_of_forall fun b member => decide_eq_true (apart b member),
      Listing.dataCount_driverBlocks]
    exact size
  · rw [count, Listing.dataCount_of_none, Listing.dataCount_driverBlocks]
    · rfl
    · exact fun b member => decide_eq_false fun tuning =>
        apart b member (List.mem_append_left _ tuning)
  · rw [count, Listing.dataCount_of_none, Listing.dataCount_driverBlocks]
    · rfl
    · exact fun b member => decide_eq_false fun same =>
        apart b member (same ▸ List.mem_append_right _ List.mem_cons_self)

theorem hit_operands : '\n' ∉ "A\"; .byte 1".toList ∧
    Listing.operandCount? (· ∉ Listing.lookupLabels)
      (Listing.text (Listing.music (new.addAll hitCalls).set "A\"; .byte 1")) = some 16 := by
  have oneLine : '\n' ∉ "A\"; .byte 1".toList := by decide
  obtain ⟨⟨operands, counted, size⟩, -, -⟩ := operands_of_listing hitCalls oneLine
  have sizes : (Sizes.of (new.addAll hitCalls).set).total = 18
      ∧ (new.addAll hitCalls).set.pool.sfx.length = 2 := by
    decide +kernel
  refine ⟨oneLine, counted.trans (congrArg some ?_)⟩
  omega

end Batch
end TuneBank
