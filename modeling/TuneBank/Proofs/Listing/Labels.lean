import Mathlib.Data.List.Nodup
import TuneBank.Proofs.Listing.Image

/-! The labels of a listing of music. Those of entries end in their number and all others in a word,
so no two are the same, and every pointer leads to a label. -/

namespace TuneBank.Listing

open Text (Base)

/-- What follows the last underscore, last character first. -/
def lastPart (label : String) : List Char := label.toList.reverse.takeWhile (· ≠ '_')

theorem digit_of_mem_hex {width i : Nat} {c : Char} (h : c ∈ (Text.hex width i).toList) :
    (Base.hex.digit? c).isSome := by
  obtain ⟨d, small, rfl⟩ := (Base.spells_hex width i).digitChar_of_mem h
  rw [Base.digit?_digitChar Base.hex small]
  rfl

theorem toList_entryLabel (stem : String) (i : Nat) :
    (entryLabel stem i).toList = stem.toList ++ '_' :: (Text.hex 2 i).toList := by
  simp [entryLabel]

theorem lastPart_entryLabel (stem : String) (i : Nat) :
    lastPart (entryLabel stem i) = (Text.hex 2 i).toList.reverse := by
  have solid : ∀ c ∈ (Text.hex 2 i).toList.reverse, decide (c ≠ '_') = true := by
    rintro c member
    refine decide_eq_true fun same => ?_
    have digit := digit_of_mem_hex (List.mem_reverse.mp member)
    rw [same] at digit
    exact absurd digit (by decide)
  rw [lastPart, toList_entryLabel, List.reverse_append, List.reverse_cons, List.append_assoc,
    List.takeWhile_append_of_pos solid]
  simp

theorem hex_inj {width i j : Nat} (h : Text.hex width i = Text.hex width j) : i = j := by
  have read := (Base.spells_hex width i).read?
  rw [h, (Base.spells_hex width j).read?] at read
  exact (Option.some.inj read).symm

theorem entryLabel_inj {stem other : String} {i j : Nat}
    (h : entryLabel stem i = entryLabel other j) : stem = other ∧ i = j := by
  have number := congrArg lastPart h
  rw [lastPart_entryLabel, lastPart_entryLabel, List.reverse_inj, String.toList_inj] at number
  obtain rfl := hex_inj number
  have chars := congrArg String.toList h
  rw [toList_entryLabel, toList_entryLabel, List.append_cancel_right_eq, String.toList_inj] at chars
  exact ⟨chars, rfl⟩

def tableLabels : List String :=
  ["data_music_macro_low", "data_music_macro_high", "data_music_instrument", "data_music_speed",
    "data_music_pattern_length", "data_music_order_low", "data_music_order_high",
    "data_music_pattern_low", "data_music_pattern_high", "data_sfx_low", "data_sfx_high",
    "data_music_tuning_low", "data_music_tuning_high", "data_music_multiply"]

theorem ne_entryLabel_of_mem {label : String} (member : label ∈ tableLabels) (stem : String)
    (i : Nat) : label ≠ entryLabel stem i := by
  rintro rfl
  have word : ∀ label ∈ tableLabels, (lastPart label).any (Base.hex.digit? · = none) := by
    decide
  obtain ⟨c, there, other⟩ := List.any_eq_true.mp (word _ member)
  rw [lastPart_entryLabel] at there
  have digit := digit_of_mem_hex (List.mem_reverse.mp there)
  exact Option.isSome_iff_ne_none.mp digit (of_decide_eq_true other)

def entryCounts (set : PackedSet) : List (String × Nat) :=
  [("data_macro", set.pool.macros.length), ("data_order", set.songs.length),
    ("data_pattern", set.pool.patterns.length),
    ("data_sfx", (set.pool.sfx.zip set.sfxIdents).length)]

def entryLabels (set : PackedSet) : List String :=
  (entryCounts set).flatMap fun (stem, count) => (List.range count).map (entryLabel stem)

theorem nodup_entryLabels (set : PackedSet) : (entryLabels set).Nodup := by
  refine List.nodup_flatMap.mpr ⟨fun p _ => ?_, ?_⟩
  · exact List.nodup_range.map_on fun i _ j _ same => (entryLabel_inj same).2
  · have distinct : ((entryCounts set).map Prod.fst).Nodup := by
      simp [entryCounts]
    refine (List.pairwise_map.mp distinct).imp fun different => ?_
    rintro label first second
    obtain ⟨i, -, rfl⟩ := List.mem_map.mp first
    obtain ⟨j, -, same⟩ := List.mem_map.mp second
    exact different (entryLabel_inj same).1.symm

theorem map_label_entryBlocks {α : Type} (stem : String) (data : α → List Datum)
    (entries : List α) : (entryBlocks stem data entries).map Block.label
      = (List.range entries.length).map (entryLabel stem) := by
  refine List.ext_getElem? fun i => ?_
  by_cases bound : i < entries.length
  · simp [entryBlocks, bound]
  · simp [entryBlocks, bound]

theorem perm_labels (set : PackedSet) :
    ((image set).map Block.label).Perm (tableLabels ++ entryLabels set) := by
  refine List.perm_iff_count.mpr fun label => ?_
  simp only [image, pointerBlocks, driverBlocks, tableLabels, entryLabels, entryCounts,
    String.reduceAppend, List.map_append, map_label_entryBlocks, List.map_cons, List.map_nil,
    List.flatMap_cons, List.flatMap_nil, List.append_nil, List.count_append, List.count_cons,
    List.count_nil]
  omega

theorem nodup_labels (set : PackedSet) : ((image set).map Block.label).Nodup := by
  rw [(perm_labels set).nodup_iff, List.nodup_append]
  refine ⟨by decide, nodup_entryLabels set, fun label table entry member same => ?_⟩
  obtain ⟨p, -, there⟩ := List.mem_flatMap.mp member
  obtain ⟨i, -, rfl⟩ := List.mem_map.mp there
  exact ne_entryLabel_of_mem table p.1 i same

theorem mem_labels {set : PackedSet} {stem : String} {count i : Nat}
    (member : (stem, count) ∈ entryCounts set) (bound : i < count) :
    entryLabel stem i ∈ (image set).map Block.label :=
  (perm_labels set).mem_iff.mpr <| List.mem_append_right _ <| List.mem_flatMap.mpr
    ⟨(stem, count), member, List.mem_map_of_mem (List.mem_range.mpr bound)⟩

end TuneBank.Listing
