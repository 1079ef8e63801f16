import TuneBank.Proofs.Listing.Operands

/-! The blocks that an assembler makes of a listing of music. They are read part by part: each table
from its label to the next, with the constants that stand before all of them. -/

namespace TuneBank

structure PackedSet.Printable (set : PackedSet) : Prop where
  macros : ∀ e ∈ set.pool.macros, '\n' ∉ e.origin.label.toList
  instruments : ∀ e ∈ set.pool.instruments,
    '\n' ∉ e.origin.title.toList ∧ '\n' ∉ e.origin.name.toList
  patterns : ∀ e ∈ set.pool.patterns, '\n' ∉ e.origin.title.toList
  songs : ∀ e ∈ set.songs, '\n' ∉ e.ident.toList
  sfx : ∀ ident ∈ set.sfxIdents, '\n' ∉ ident.toList
  paired : set.sfxIdents.length = set.pool.sfx.length
  lengths : ∀ e ∈ set.songs, 1 ≤ e.song.patternLength ∧ e.song.patternLength ≤ 256

theorem PackedSet.Printable.map_zip_sfx {set : PackedSet} (fits : set.Printable) {α : Type}
    (f : SfxEntry → α) :
    ((set.pool.sfx.zip set.sfxIdents).map fun e => f e.1) = set.pool.sfx.map f := by
  conv_rhs => rw [← List.map_fst_zip (Nat.le_of_eq fits.paired.symm), List.map_map]
  rfl

namespace Listing

open List (Forall₂)

def entryBlocks {α : Type} (stem : String) (data : α → List Datum) (entries : List α) :
    List Block :=
  entries.mapIdx fun i e => ⟨entryLabel stem i, data e⟩

def pointerBlocks (table stem : String) (count : Nat) : List Block :=
  [⟨table ++ "_low", (List.range count).map fun i => .low (entryLabel stem i)⟩,
    ⟨table ++ "_high", (List.range count).map fun i => .high (entryLabel stem i)⟩]

def macroData (e : Entry Macro MacroOrigin) : List Datum := e.content.packed.map .number

def instrumentData (e : Entry (PerKind UInt8) InstrumentOrigin) : List Datum :=
  [byteDatum e.content.volume, byteDatum e.content.arpeggio, byteDatum e.content.pitch,
    byteDatum e.content.duty]

def orderData (e : SongEntry) : List Datum :=
  e.song.order.flatMap fun frame => frame.toList.map byteDatum

def patternData (e : Entry (List UInt8) PatternOrigin) : List Datum := e.content.map byteDatum

def sfxData (e : SfxEntry) : List Datum := e.sfx.bytes.map byteDatum

def driverBlocks : List Block :=
  [⟨"data_music_tuning_low", DriverTables.tuning.map fun p => .number (p % 256 : Nat)⟩,
    ⟨"data_music_tuning_high", DriverTables.tuning.map fun p => .number (p / 256 : Nat)⟩,
    ⟨"data_music_multiply", DriverTables.scaling.map byteDatum⟩]

/-- What the tables are in the memory of the driver. -/
def image (set : PackedSet) : List Block :=
  entryBlocks "data_macro" macroData set.pool.macros
  ++ pointerBlocks "data_music_macro" "data_macro" set.pool.macros.length
  ++ [⟨"data_music_instrument", set.pool.instruments.flatMap instrumentData⟩,
    ⟨"data_music_speed", set.songs.map fun e => byteDatum e.song.speed⟩,
    ⟨"data_music_pattern_length",
      set.songs.map fun e => .number (e.song.patternLength % 256 : Nat)⟩]
  ++ entryBlocks "data_order" orderData set.songs
  ++ pointerBlocks "data_music_order" "data_order" set.songs.length
  ++ entryBlocks "data_pattern" patternData set.pool.patterns
  ++ pointerBlocks "data_music_pattern" "data_pattern" set.pool.patterns.length
  ++ entryBlocks "data_sfx" (fun e => sfxData e.1) (set.pool.sfx.zip set.sfxIdents)
  ++ pointerBlocks "data_sfx" "data_sfx" set.pool.sfx.length
  ++ driverBlocks

section
variable {defs : List (String × Int)}

theorem reads_pointerTables {table stem : String} (ht : Atom table) (hs : Atom stem) (count : Nat) :
    Reads defs (pointerTables table stem count) [] (pointerBlocks table stem count) := by
  have half {op : String} {d : String → Datum}
      (denotes : ∀ {label : String}, Atom label → Denotes defs (op ++ label) (d label)) :
      Reads defs ((List.range count).map fun i => .data [op ++ entryLabel stem i] none)
        ((List.range count).map fun i => d (entryLabel stem i)) [] :=
    .map_data fun i _ => .data (List.cons_ne_nil _ _)
      (.cons (denotes (atom_entryLabel hs i)) .nil) (by simp)
  have both := ((half denotes_low).table (ht.append (by decide : Atom "_low"))).append
    ((half denotes_high).table (ht.append (by decide : Atom "_high")))
  simpa [pointerTables, pointerBlocks] using both

end

/-! Reading the parts of the listing -/

theorem noNewline_hex (width n : Nat) : '\n' ∉ (Text.hex width n).toList :=
  noNewline_of_spells (Text.Base.spells_hex width n)

variable {set : PackedSet}

theorem reads_driverTables : Reads (definitions set) driverTableLines [] driverBlocks := by
  have low : Reads (definitions set)
      (wrapped tuningWidth (DriverTables.tuning.map fun p => "$" ++ Text.hex 2 (p % 256)))
      (DriverTables.tuning.map fun p => .number (p % 256 : Nat)) [] :=
    .wrapped (by decide) (denotes_map fun p _ => denotes_hex 2 (p % 256))
  have high : Reads (definitions set)
      (wrapped tuningWidth (DriverTables.tuning.map fun p => "$" ++ Text.hex 2 (p / 256)))
      (DriverTables.tuning.map fun p => .number (p / 256 : Nat)) [] :=
    .wrapped (by decide) (denotes_map fun p _ => denotes_hex 2 (p / 256))
  have scaling : Reads (definitions set)
      (wrapped 16 (DriverTables.scaling.map fun v => "$" ++ Text.hex 1 v.toNat))
      (DriverTables.scaling.map byteDatum) [] :=
    .wrapped (by decide) (denotes_map fun v _ => denotes_hex 1 v.toNat)
  have all := ((low.table (by decide : Atom "data_music_tuning_low")).append
    (high.table (by decide : Atom "data_music_tuning_high"))).append
    (scaling.table (by decide : Atom "data_music_multiply"))
  simpa only [driverTableLines, driverBlocks, List.append_assoc, List.cons_append,
    List.nil_append] using all

def declarations (set : PackedSet) (memory : String) : List Line :=
  [banner, .blank] ++ constants set
    ++ [.blank, .directive (".segment \"" ++ memory ++ "\""), .blank]

theorem statement?_segment (memory : String) :
    statement? (".segment \"" ++ memory ++ "\"") = some .nothing := by
  let rest := ('"' :: (memory.toList ++ ['"'])).takeWhile (· ≠ ';')
  have code : (".segment \"" ++ memory ++ "\"").toList.takeWhile (· ≠ ';')
      = ".segment".toList ++ ' ' :: rest := by
    simp [rest]
  have first : Text.fieldsFrom [] ".segment".toList = [".segment"] := by decide
  rw [statement?, code, Text.fieldsFrom_append_blank (by decide), first]
  rfl

theorem declares_declarations {memory : String} (oneLine : '\n' ∉ memory.toList) :
    ∀ l ∈ declarations set memory, l.Declares := by
  have count {name : String} (atom : Atom name) (n : Nat) :
      (Line.constant name (Text.decimal n)).Declares :=
    Line.declares_constant atom (atom_of_spells (Text.Base.spells_decimal n))
  have loop : (Line.constant "LOOP" (Text.signed Macro.loopMarker.toInt)).Declares :=
    Line.declares_constant (by decide) (by decide +kernel)
  have named : ∀ l ∈ (Bytecode.patternNames ++ Bytecode.sfxNames).map
      fun p => Line.constant p.1 (hexOperand p.2), l.Declares := by
    refine List.forall_mem_map.mpr fun p member =>
      Line.declares_constant (denotes_names set p member).1 ?_
    exact (by decide : Atom "$").append (atom_of_spells (Text.Base.spells_hex 2 p.2.toNat))
  have segment : (Line.directive (".segment \"" ++ memory ++ "\"")).Declares :=
    ⟨⟨by simp [oneLine], statement?_segment memory⟩, .inl rfl⟩
  have first : banner.Declares := by
    refine ⟨?_, .inl rfl⟩
    change '\n' ∉ "automatically generated by chippack".toList
    decide
  simp only [declarations, constants, List.forall_mem_append, List.forall_mem_cons]
  have blank := Line.declares_blank
  exact ⟨⟨⟨first, blank, by simp⟩, ⟨count (by decide) _, count (by decide) _, count (by decide) _,
    count (by decide) _, count (by decide) _, blank, loop, by simp⟩, named⟩,
    blank, segment, blank, by simp⟩

def tables (set : PackedSet) : List Line :=
  ((set.pool.macros.mapIdx macroLines).flatten ++ [.blank]
    ++ pointerTables "data_music_macro" "data_macro" set.pool.macros.length)
  ++ (.label "data_music_instrument" none :: set.pool.instruments.mapIdx instrumentLine ++ [.blank])
  ++ (.label "data_music_speed" none ::
    oneLine (set.songs.map fun e => Text.decimal e.song.speed.toNat) ++ [.blank])
  ++ (.label "data_music_pattern_length" none ::
    oneLine (set.songs.map fun e => lengthOperand e.song) ++ [.blank])
  ++ ((set.songs.mapIdx orderLines).flatten
    ++ pointerTables "data_music_order" "data_order" set.songs.length)
  ++ ((set.pool.patterns.mapIdx patternLines).flatten
    ++ pointerTables "data_music_pattern" "data_pattern" set.pool.patterns.length)
  ++ (((set.pool.sfx.zip set.sfxIdents).mapIdx sfxLines).flatten
    ++ pointerTables "data_sfx" "data_sfx" set.pool.sfx.length)
  ++ (driverTableLines ++ [ending])

theorem music_eq (memory : String) : music set memory = declarations set memory ++ tables set := by
  unfold music declarations tables
  simp only [List.append_assoc, List.cons_append, List.nil_append]

variable (fits : set.Printable)
include fits

theorem reads_macros : Reads (definitions set) (set.pool.macros.mapIdx macroLines).flatten []
    (entryBlocks "data_macro" macroData set.pool.macros) := by
  refine .flatten_blocks fun i e there => ?_
  exact .label (atom_entryLabel (by decide) i)
    (by simpa using fits.macros e (List.mem_of_getElem? there))
    (.oneLine (denotes_macroOperands set e.content))

theorem reads_instruments : Reads (definitions set) (set.pool.instruments.mapIdx instrumentLine)
    (set.pool.instruments.flatMap instrumentData) [] := by
  refine .mapIdx_data fun i e member => ?_
  have names := fits.instruments e member
  have slots : instrumentData e = storedKinds.map fun kind => byteDatum (e.content.get kind) := rfl
  rw [slots]
  exact .data (by simp [storedKinds]) (denotes_map fun kind _ => denotes_hexOperand _)
    (by simp [noNewline_hex, names])

theorem reads_orders : Reads (definitions set) (set.songs.mapIdx orderLines).flatten []
    (entryBlocks "data_order" orderData set.songs) := by
  refine .flatten_blocks fun i e there => ?_
  have frames : Reads (definitions set) (e.song.order.mapIdx fun j frame =>
      Line.data (frame.toList.map hexOperand) (some (Text.hex 2 j))) (orderData e) [] :=
    .mapIdx_data fun j frame _ =>
      .data (by simp [PerVoice.toList, Voice.all]) (denotes_map fun b _ => denotes_hexOperand b)
        (by simp [noNewline_hex])
  exact (frames.label (atom_entryLabel (by decide) i)
    (by simpa using fits.songs e (List.mem_of_getElem? there))).append .blank

theorem reads_patterns : Reads (definitions set) (set.pool.patterns.mapIdx patternLines).flatten []
    (entryBlocks "data_pattern" patternData set.pool.patterns) := by
  refine .flatten_blocks fun i e there => ?_
  have declared : ∀ p ∈ Bytecode.patternNames, Denotes (definitions set) p.1 (byteDatum p.2) :=
    fun p member => denotes_names set p (List.mem_append_left _ member)
  have stream := Reads.wrapped (by decide : streamWidth ≠ 0)
    (denotes_patternOperands declared e.content)
  have title := fits.patterns e (List.mem_of_getElem? there)
  have channel : '\n' ∉ e.origin.channel.name.toList := by cases e.origin.channel <;> decide
  exact (stream.label (atom_entryLabel (by decide) i)
    (by simp [title, channel, Text.hexByte, noNewline_hex])).append .blank

theorem reads_sfx :
    Reads (definitions set) ((set.pool.sfx.zip set.sfxIdents).mapIdx sfxLines).flatten []
      (entryBlocks "data_sfx" (fun e => sfxData e.1) (set.pool.sfx.zip set.sfxIdents)) := by
  refine .flatten_blocks fun i e there => ?_
  have declared : ∀ p ∈ Bytecode.sfxNames, Denotes (definitions set) p.1 (byteDatum p.2) :=
    fun p member => denotes_names set p (List.mem_append_right _ member)
  have stream := Reads.wrapped (by decide : streamWidth ≠ 0)
    (denotes_map fun b (_ : b ∈ e.1.sfx.bytes) => denotes_namedOperand declared b)
  have ident := fits.sfx e.2 (List.of_mem_zip (List.mem_of_getElem? there)).2
  exact (stream.label (atom_entryLabel (by decide) i) (by simpa using ident)).append .blank

theorem reads_tables : Reads (definitions set) (tables set) [] (image set) := by
  have speeds : Reads (definitions set)
      (oneLine (set.songs.map fun e => Text.decimal e.song.speed.toNat))
      (set.songs.map fun e => byteDatum e.song.speed) [] :=
    .oneLine (denotes_map fun e _ => denotes_decimal e.song.speed.toNat)
  have lengths : Reads (definitions set) (oneLine (set.songs.map fun e => lengthOperand e.song))
      (set.songs.map fun e => .number (e.song.patternLength % 256 : Nat)) [] :=
    .oneLine (denotes_map fun e _ => denotes_decimal (e.song.patternLength % 256))
  have last : ending.Readable := by
    change '\n' ∉ "end of file".toList
    decide
  have all := ((reads_macros fits).append .blank).append
      (reads_pointerTables (by decide : Atom "data_music_macro") (by decide : Atom "data_macro")
        set.pool.macros.length)
    |>.append ((reads_instruments fits).table (by decide : Atom "data_music_instrument"))
    |>.append (speeds.table (by decide : Atom "data_music_speed"))
    |>.append (lengths.table (by decide : Atom "data_music_pattern_length"))
    |>.append ((reads_orders fits).append
      (reads_pointerTables (by decide : Atom "data_music_order") (by decide : Atom "data_order")
        set.songs.length))
    |>.append ((reads_patterns fits).append
      (reads_pointerTables (by decide : Atom "data_music_pattern") (by decide : Atom "data_pattern")
        set.pool.patterns.length))
    |>.append ((reads_sfx fits).append
      (reads_pointerTables (by decide : Atom "data_sfx") (by decide : Atom "data_sfx")
        set.pool.sfx.length))
    |>.append (reads_driverTables.append (.pass last rfl))
  unfold tables image
  simpa only [List.append_assoc, List.cons_append, List.nil_append, List.append_nil] using all

theorem assemble?_music {memory : String} (oneLine : '\n' ∉ memory.toList) :
    assemble? (text (music set memory)) = some (image set) := by
  have defined : constants? ((declarations set memory).map Line.statement)
      = some (definitions set) := by
    rw [← constants?_constants, constants?, constants?, declarations, List.map_append,
      List.map_append, List.filterMap_append, List.filterMap_append]
    exact congrArg (fun l => List.mapM _ l >>= _) (List.append_nil _)
  rw [music_eq]
  exact assemble?_of_reads (declares_declarations oneLine) defined (reads_tables fits)

end Listing

end TuneBank
