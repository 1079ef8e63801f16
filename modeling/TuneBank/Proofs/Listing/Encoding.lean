import TuneBank.Proofs.Listing.Labels

/-! What the blocks of a listing say of the tables. -/

namespace TuneBank.Listing

/-- The rows that a byte stands for. -/
def rowsOfByte (b : UInt8) : Nat := if b = 0 then 256 else b.toNat

theorem rowsOfByte_ofNat {n : Nat} (some : 1 ≤ n) (bounded : n ≤ 256) :
    rowsOfByte (UInt8.ofNat n) = n := by
  have value : (UInt8.ofNat n).toNat = n % 256 := UInt8.toNat_ofNat'
  have zero : UInt8.ofNat n = 0 ↔ n % 256 = 0 := by
    rw [← UInt8.toNat_inj, value]
    rfl
  simp only [rowsOfByte, zero, value]
  split <;> omega

def Datum.label? : Datum → Option String
  | number _ => none
  | low label | high label => some label

/-- The tables of pointers, the stems of what they point to and their lengths. -/
def pointerCounts (set : PackedSet) : List (String × String × Nat) :=
  [("data_music_macro", "data_macro", set.pool.macros.length),
    ("data_music_order", "data_order", set.songs.length),
    ("data_music_pattern", "data_pattern", set.pool.patterns.length),
    ("data_sfx", "data_sfx", set.pool.sfx.length)]

structure Encodes (set : PackedSet) (blocks : List Block) : Prop where
  distinct : (blocks.map Block.label).Nodup
  defined : ∀ b ∈ blocks, ∀ d ∈ b.data, ∀ label ∈ d.label?, label ∈ blocks.map Block.label
  macros : ∀ i e, set.pool.macros[i]? = some e →
    ⟨entryLabel "data_macro" i, macroData e⟩ ∈ blocks
  instruments : ⟨"data_music_instrument", set.pool.instruments.flatMap instrumentData⟩ ∈ blocks
  speeds : ⟨"data_music_speed", set.songs.map fun e => byteDatum e.song.speed⟩ ∈ blocks
  lengths : ∃ bytes : List UInt8, ⟨"data_music_pattern_length", bytes.map byteDatum⟩ ∈ blocks
    ∧ bytes.map rowsOfByte = set.songs.map fun e => e.song.patternLength
  orders : ∀ i e, set.songs[i]? = some e → ⟨entryLabel "data_order" i, orderData e⟩ ∈ blocks
  patterns : ∀ i e, set.pool.patterns[i]? = some e →
    ⟨entryLabel "data_pattern" i, patternData e⟩ ∈ blocks
  sfx : ∀ i e, set.pool.sfx[i]? = some e → ⟨entryLabel "data_sfx" i, sfxData e⟩ ∈ blocks
  pointers : ∀ table stem count, (table, stem, count) ∈ pointerCounts set →
    pointerBlocks table stem count ⊆ blocks

theorem mem_entryBlocks {α : Type} (stem : String) (data : α → List Datum) {entries : List α}
    {i : Nat} {e : α} (there : entries[i]? = some e) :
    ⟨entryLabel stem i, data e⟩ ∈ entryBlocks stem data entries := by
  refine List.mem_of_getElem? (i := i) ?_
  simp [entryBlocks, there]

def Plain (data : List Datum) : Prop := ∀ d ∈ data, d.label? = none

theorem plain_map {α : Type} {f : α → Datum} (h : ∀ a, (f a).label? = none) (as : List α) :
    Plain (as.map f) :=
  List.forall_mem_map.mpr fun a _ => h a

theorem plain_flatMap {α : Type} {f : α → List Datum} (h : ∀ a, Plain (f a)) (as : List α) :
    Plain (as.flatMap f) := by
  intro d member
  obtain ⟨a, -, own⟩ := List.mem_flatMap.mp member
  exact h a d own

theorem plain_bytes (bytes : List UInt8) : Plain (bytes.map byteDatum) :=
  plain_map (fun _ => rfl) bytes

theorem plain_numbers {α : Type} (f : α → Int) (as : List α) :
    Plain (as.map fun a => .number (f a)) :=
  plain_map (fun _ => rfl) as

theorem plain_macroData (e : Entry Macro MacroOrigin) : Plain (macroData e) :=
  plain_map (fun _ => rfl) e.content.packed

theorem plain_instrumentData (e : Entry (PerKind UInt8) InstrumentOrigin) :
    Plain (instrumentData e) :=
  plain_bytes [e.content.volume, e.content.arpeggio, e.content.pitch, e.content.duty]

theorem plain_orderData (e : SongEntry) : Plain (orderData e) := by
  unfold orderData
  exact plain_flatMap (fun frame => plain_bytes frame.toList) e.song.order

theorem plain_of_mem_entryBlocks {α : Type} {stem : String} {data : α → List Datum}
    {entries : List α} {b : Block} (member : b ∈ entryBlocks stem data entries)
    (h : ∀ e, Plain (data e)) : Plain b.data := by
  obtain ⟨i, bound, rfl⟩ := List.mem_mapIdx.mp member
  exact h _

theorem plain_or_pointers {set : PackedSet} {b : Block} (member : b ∈ image set) :
    Plain b.data ∨ ∃ table stem count, (table, stem, count) ∈ pointerCounts set
      ∧ b ∈ pointerBlocks table stem count := by
  simp only [image, driverBlocks, List.mem_append, List.mem_cons, List.not_mem_nil,
    or_false] at member
  rcases member with (((((((((macros | pointers) | rfl | rfl | rfl) | orders) | pointers)
    | patterns) | pointers) | sfx) | pointers) | rfl | rfl | rfl)
  · exact .inl (plain_of_mem_entryBlocks macros plain_macroData)
  · exact .inr ⟨_, _, _, .head _, pointers⟩
  · exact .inl (plain_flatMap plain_instrumentData _)
  · exact .inl (plain_map (fun _ => rfl) _)
  · exact .inl (plain_numbers _ _)
  · exact .inl (plain_of_mem_entryBlocks orders plain_orderData)
  · exact .inr ⟨_, _, _, .tail _ (.head _), pointers⟩
  · exact .inl (plain_of_mem_entryBlocks patterns fun e => plain_bytes e.content)
  · exact .inr ⟨_, _, _, .tail _ (.tail _ (.head _)), pointers⟩
  · exact .inl (plain_of_mem_entryBlocks sfx fun e => plain_bytes e.1.sfx.bytes)
  · exact .inr ⟨_, _, _, .tail _ (.tail _ (.tail _ (.head _))), pointers⟩
  · exact .inl (plain_numbers _ _)
  · exact .inl (plain_numbers _ _)
  · exact .inl (plain_bytes _)

theorem exists_of_mem_pointerBlocks {table stem : String} {count : Nat} {b : Block}
    (member : b ∈ pointerBlocks table stem count) {d : Datum} (there : d ∈ b.data) {label : String}
    (named : label ∈ d.label?) : ∃ i < count, label = entryLabel stem i := by
  simp only [pointerBlocks, List.mem_cons, List.not_mem_nil, or_false] at member
  rcases member with rfl | rfl
  all_goals
    obtain ⟨i, bound, rfl⟩ := List.mem_map.mp there
    exact ⟨i, List.mem_range.mp bound, (Option.some.inj named).symm⟩

theorem encodes_image {set : PackedSet} (fits : set.Printable) : Encodes set (image set) where
  distinct := nodup_labels set
  defined b member d there label named := by
    rcases plain_or_pointers member with plain | ⟨table, stem, count, points, own⟩
    · rw [plain d there] at named
      exact absurd named (Option.not_mem_none label)
    · obtain ⟨i, bound, rfl⟩ := exists_of_mem_pointerBlocks own there named
      have counts : (pointerCounts set).map Prod.snd = entryCounts set := by
        simp [pointerCounts, entryCounts, fits.paired]
      exact mem_labels (counts ▸ List.mem_map_of_mem points) bound
  macros i e there := by simp [image, mem_entryBlocks _ macroData there]
  instruments := by simp [image]
  speeds := by simp [image]
  lengths := by
    refine ⟨set.songs.map fun e => UInt8.ofNat e.song.patternLength, ?_, ?_⟩
    · rw [List.map_map]
      simp [image, Function.comp_def, byteDatum]
    · rw [List.map_map]
      exact List.map_congr_left fun e member =>
        rowsOfByte_ofNat (fits.lengths e member).1 (fits.lengths e member).2
  orders i e there := by simp [image, mem_entryBlocks _ orderData there]
  patterns i e there := by simp [image, mem_entryBlocks _ patternData there]
  sfx i e there := by
    obtain ⟨bound, -⟩ := List.getElem?_eq_some_iff.mp there
    have named : i < set.sfxIdents.length := fits.paired ▸ bound
    have both : (set.pool.sfx.zip set.sfxIdents)[i]? = some (e, set.sfxIdents[i]) :=
      List.getElem?_zip_eq_some.mpr ⟨there, List.getElem?_eq_getElem named⟩
    simp [image, mem_entryBlocks "data_sfx" (fun e => sfxData e.1) both]
  pointers table stem count member b own := by
    simp only [pointerCounts, List.mem_cons, Prod.mk.injEq, List.not_mem_nil, or_false] at member
    simp only [image, List.mem_append]
    rcases member with ⟨rfl, rfl, rfl⟩ | ⟨rfl, rfl, rfl⟩ | ⟨rfl, rfl, rfl⟩ | ⟨rfl, rfl, rfl⟩ <;>
      simp only [own, true_or, or_true]

end TuneBank.Listing
