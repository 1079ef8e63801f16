import Mathlib.Tactic.MkIffOfInductiveProp
import TuneBank.Export.Import
import TuneBank.Proofs.Stream.Tokens
import TuneBank.Proofs.Text.Numeral

/-! The cells that an import can bring in. A row is the only record that writes cells, and its
columns are read one by one: `exportable_of_readColumns?` says what holds of each. -/

namespace TuneBank

/-- The channel has this kind of note, and its numbers are those that an export can write. -/
def Note.OnChannel (c : Channel) : Note → Prop
  | tone octave semitone => c.isNoise = false ∧ octave.toNat ≤ 9 ∧ semitone.toNat ≤ 11
  | noise period => c.isNoise = true ∧ period.toNat ≤ 15
  | _ => True

instance (c : Channel) (note : Note) : Decidable (note.OnChannel c) :=
  match note with
  | .tone octave semitone =>
    inferInstanceAs (Decidable (c.isNoise = false ∧ octave.toNat ≤ 9 ∧ semitone.toNat ≤ 11))
  | .noise period => inferInstanceAs (Decidable (c.isNoise = true ∧ period.toNat ≤ 15))
  | .blank | .halt | .release => inferInstanceAs (Decidable True)

@[mk_iff]
structure Cell.Exportable (c : Channel) (cell : Cell) : Prop where
  note : cell.note.OnChannel c
  volume : cell.VolumeInRange
  count : cell.effects.length ≤ maxEffects
  letters : ∀ e ∈ cell.effects, Export.isAsciiLetterOrDigit e.letter

instance (c : Channel) (cell : Cell) : Decidable (cell.Exportable c) :=
  decidable_of_iff' _ (Cell.exportable_iff c cell)

theorem Cell.exportable_empty (c : Channel) : empty.Exportable c :=
  ⟨trivial, volumeInRange_empty, Nat.zero_le _, fun _ member => absurd member List.not_mem_nil⟩

/-- Every cell that was written is one that an export can write. -/
def Track.Exportable (t : Track) : Prop :=
  ∀ p ∈ t.patterns, ∀ cells ∈ p.cells, ∀ c, (cells.get c).Exportable c

namespace Track.Exportable
variable {t : Track}

theorem cell (h : t.Exportable) (c : Channel) (slot : UInt8) (row : Nat) :
    (t.cell c slot row).Exportable c :=
  t.forall_cell (Cell.exportable_empty c) (fun p there cells here => h p there cells here c) slot
    row

theorem volumesInRange (h : t.Exportable) : t.VolumesInRange :=
  fun p there cells here c _ => (h p there cells here c).volume

theorem ensureSlot (h : t.Exportable) (slot : UInt8) : (t.ensureSlot slot).Exportable := by
  intro p there cells here c
  rcases List.mem_append.mp there with old | new
  · exact h p old cells here c
  · obtain rfl := List.eq_of_mem_replicate new
    obtain rfl := List.eq_of_mem_replicate here
    rw [Pattern.emptyRow, PerChannel.get_ofFn]
    exact Cell.exportable_empty c

theorem setRow (h : t.Exportable) (slot : UInt8) (row : Nat) {cells : PerChannel Cell}
    (fresh : ∀ c, (cells.get c).Exportable c) :
    (t.modifySlot slot (·.setRow row cells)).Exportable := by
  intro p there other here c
  obtain ⟨i, found⟩ := List.mem_iff_getElem?.mp there
  rw [modifySlot, List.getElem?_modify] at found
  obtain ⟨q, old, same⟩ := Option.map_eq_some_iff.mp found
  have before := h q (List.mem_of_getElem? old)
  split_ifs at same
  · obtain rfl := same
    rcases List.mem_or_eq_of_mem_set here with kept | rfl
    · exact before other kept c
    · exact fresh c
  · obtain rfl := same
    exact before other here c

end Track.Exportable

namespace Export

theorem onChannel_of_readNote? {c : Channel} {text : String} {note : Note}
    (h : readNote? c text = some note) : note.OnChannel c := by
  unfold readNote? at h
  split_ifs at h with blank halt release noisy
  · exact Option.some.inj h ▸ trivial
  · exact Option.some.inj h ▸ trivial
  · exact Option.some.inj h ▸ trivial
  · split at h
    · split_ifs at h
      obtain ⟨period, digit, rfl⟩ := Option.map_eq_some_iff.mp h
      have small : period < 16 := Text.Base.hex.digit?_lt digit
      exact ⟨noisy, by rw [UInt8.toNat_ofNat_of_lt' (Nat.lt_trans small (by decide))]; omega⟩
    · exact nomatch h
  · split at h
    · simp only [bind, pure, Option.bind_eq_some_iff, Option.some.injEq] at h
      obtain ⟨semitone, named, octave, digit, rfl⟩ := h
      have low : octave < 10 := Text.Base.decimal.digit?_lt digit
      have listed : semitone < 12 := (List.idxOf?_eq_some_iff.mp named).1
      refine ⟨by simpa using noisy, ?_, ?_⟩
      · rw [UInt8.toNat_ofNat_of_lt' (Nat.lt_trans low (by decide))]
        omega
      · rw [UInt8.toNat_ofNat_of_lt' (Nat.lt_trans listed (by decide))]
        omega
    · exact nomatch h

theorem toNat_lt_of_isAsciiLetterOrDigit {c : Char} (h : isAsciiLetterOrDigit c) :
    c.toNat < 128 := by
  simp only [isAsciiLetterOrDigit, Bool.or_eq_true, Bool.and_eq_true, decide_eq_true_eq] at h
  rcases h with (digit | small) | capital
  · exact Nat.lt_of_le_of_lt digit.2 (by decide : '9'.toNat < 128)
  · exact Nat.lt_of_le_of_lt small.2 (by decide : 'z'.toNat < 128)
  · exact Nat.lt_of_le_of_lt capital.2 (by decide : 'Z'.toNat < 128)

theorem letter_of_readEffect? {text : String} {e : Effect}
    (h : readEffect? text = some (.effect e)) : isAsciiLetterOrDigit e.letter := by
  unfold readEffect? at h
  split_ifs at h
  · exact nomatch Option.some.inj h
  · split at h
    · split_ifs at h with ascii
      obtain ⟨n, -, same⟩ := Option.map_eq_some_iff.mp h
      obtain rfl := EffectColumn.effect.inj same
      have small := toNat_lt_of_isAsciiLetterOrDigit ascii
      rw [Effect.letter, UInt8.toNat_ofNat_of_lt' (Nat.lt_trans small (by decide)),
        Char.ofNat_toNat]
      exact ascii
    · exact nomatch h

theorem readEffects?_spec {texts : List String} {es : List Effect}
    (h : readEffects? texts = some es) :
    es.length ≤ texts.length ∧ ∀ e ∈ es, isAsciiLetterOrDigit e.letter := by
  induction texts generalizing es with
  | nil =>
    obtain rfl := Option.some.inj h
    exact ⟨Nat.le_refl _, fun _ member => absurd member List.not_mem_nil⟩
  | cons text texts ih =>
    rw [readEffects?] at h
    split at h
    · exact nomatch h
    · obtain ⟨count, letters⟩ := ih h
      exact ⟨Nat.le_succ_of_le count, letters⟩
    · rename_i e read
      obtain ⟨rest, later, rfl⟩ := Option.map_eq_some_iff.mp h
      obtain ⟨count, letters⟩ := ih later
      refine ⟨Nat.succ_le_succ count, fun f member => ?_⟩
      rcases List.mem_cons.mp member with rfl | other
      · exact letter_of_readEffect? read
      · exact letters f other

theorem volume_of_readVolume? {text : String} {volume : Option UInt8}
    (h : readVolume? text = some volume) : ∀ level ∈ volume, level.toNat ≤ 15 := by
  unfold readVolume? at h
  split_ifs at h
  · obtain rfl := Option.some.inj h
    exact fun _ member => nomatch member
  · simp only [Text.natural?, Option.map_map, Option.map_eq_some_iff, Option.filter_eq_some_iff,
      decide_eq_true_eq] at h
    obtain ⟨n, ⟨-, small⟩, rfl⟩ := h
    rintro level ⟨⟩
    rw [UInt8.toNat_ofNat_of_lt' (Nat.lt_trans small (by decide))]
    omega

theorem exportable_of_readColumns? {c : Channel} {texts : List String} {columns : Columns}
    (h : readColumns? c texts = some columns) : columns.cell.Exportable c := by
  unfold readColumns? at h
  split at h
  · rename_i note instrument volume effects
    split_ifs at h with few
    simp only [bind, pure, Option.bind_eq_some_iff, Option.some.injEq] at h
    obtain ⟨_, -, level, volumeRead, es, effectsRead, rfl⟩ := h
    obtain ⟨count, letters⟩ := readEffects?_spec effectsRead
    have most : es.length ≤ Cell.maxEffects := by omega
    split
    · rename_i n noteRead
      exact ⟨onChannel_of_readNote? noteRead, volume_of_readVolume? volumeRead, most, letters⟩
    · exact ⟨trivial, volume_of_readVolume? volumeRead, most, letters⟩
  · exact nomatch h

theorem exportable_of_readRow? {fields : List String} {r : Record}
    (h : Record.readRow? fields = some r) :
    ∃ row cells unknownNotes, r = .row row cells unknownNotes
      ∧ ∀ c, (cells.get c).Exportable c := by
  unfold Record.readRow? at h
  split at h
  · split_ifs at h
    simp only [bind, pure, Option.bind_eq_some_iff, Option.some.injEq] at h
    obtain ⟨number, -, groups, -, columns, read, rfl⟩ := h
    refine ⟨_, _, _, rfl, fun c => ?_⟩
    rw [PerChannel.get_ofFn]
    exact exportable_of_readColumns? (PerChannel.traverse?_eq_some_iff.mp read c)
  · exact nomatch h

end Export

end TuneBank
