import TuneBank.Proofs.Export.Grammar

/-! The columns of a cell are read back. Every printed field but the colon is a symbol: ASCII
without blanks, quotes and colons, which keeps fields, names and channels of a line apart. -/

namespace TuneBank.Export

open List (Forall₂)
open Text (Base Word Spaced Gap SpellsInt)

/-- Text that can neither end a field nor open a name nor separate two channels. -/
@[mk_iff]
structure Symbol (s : String) : Prop where
  ne_nil : s.toList ≠ []
  chars : ∀ c ∈ s.toList, 0x20 < c.toNat ∧ c.toNat < 0x7F ∧ c ≠ '"' ∧ c ≠ ':'

instance (s : String) : Decidable (Symbol s) :=
  haveI : Decidable (∀ c ∈ s.toList, 0x20 < c.toNat ∧ c.toNat < 0x7F ∧ c ≠ '"' ∧ c ≠ ':') :=
    List.decidableBAll _ _
  decidable_of_iff' _ (symbol_iff s)

theorem isBlank_of_ascii {c : Char} (low : 0x20 < c.toNat) (high : c.toNat < 0x7F) :
    Text.isBlank c = false := by
  simp only [Text.isBlank, Bool.or_eq_false_iff, Bool.and_eq_false_iff, decide_eq_false_iff_not,
    beq_eq_false_iff_ne]
  omega

namespace Symbol
variable {s t : String}

theorem word (h : Symbol s) : Word s where
  ne_nil := h.ne_nil
  solid c member := isBlank_of_ascii (h.chars c member).1 (h.chars c member).2.1
  noQuote member := (h.chars _ member).2.2.1 rfl

theorem ne_colon (h : Symbol s) : s ≠ ":" := by
  rintro rfl
  exact (h.chars ':' (by decide)).2.2.2 rfl

theorem append (h : Symbol s) (h' : Symbol t) : Symbol (s ++ t) := by
  refine ⟨by simp [h.ne_nil], fun c member => ?_⟩
  rw [String.toList_append] at member
  exact (List.mem_append.mp member).elim (h.chars c) (h'.chars c)

theorem of_spells {b : Base} {n : Nat} (h : b.Spells n s) : Symbol s := by
  refine ⟨h.ne_nil, fun c member => ?_⟩
  obtain ⟨d, small, rfl⟩ := h.digitChar_of_mem member
  exact (by decide : ∀ d < 16, 0x20 < (Base.digitChar d).toNat ∧ (Base.digitChar d).toNat < 0x7F
    ∧ Base.digitChar d ≠ '"' ∧ Base.digitChar d ≠ ':') d small

theorem of_spellsInt {i : Int} (h : SpellsInt i s) : Symbol s := by
  cases h with
  | ofNat h => exact of_spells h
  | neg h => exact append (by decide) (of_spells h)

theorem of_kind (kind : RecordKind) : Symbol kind.name := by
  cases kind <;> decide

end Symbol

/-! Notes -/

theorem semitoneNames_spec : ∀ semitone < 12, ∃ a b,
    Note.semitoneNames[semitone]? = some (String.ofList [a, b])
      ∧ Note.semitoneNames.idxOf? (String.ofList [a, b]) = some semitone
      ∧ Symbol (String.ofList [a, b]) ∧ a ≠ '.' ∧ a ≠ '-' ∧ a ≠ '='
  | 0, _ => ⟨'C', '-', rfl, by decide, by decide⟩
  | 1, _ => ⟨'C', '#', rfl, by decide, by decide⟩
  | 2, _ => ⟨'D', '-', rfl, by decide, by decide⟩
  | 3, _ => ⟨'D', '#', rfl, by decide, by decide⟩
  | 4, _ => ⟨'E', '-', rfl, by decide, by decide⟩
  | 5, _ => ⟨'F', '-', rfl, by decide, by decide⟩
  | 6, _ => ⟨'F', '#', rfl, by decide, by decide⟩
  | 7, _ => ⟨'G', '-', rfl, by decide, by decide⟩
  | 8, _ => ⟨'G', '#', rfl, by decide, by decide⟩
  | 9, _ => ⟨'A', '-', rfl, by decide, by decide⟩
  | 10, _ => ⟨'A', '#', rfl, by decide, by decide⟩
  | 11, _ => ⟨'B', '-', rfl, by decide, by decide⟩

theorem write_of_lt {b : Base} {n : Nat} (small : n < b.radix) :
    b.write n = [Base.digitChar n] := by
  rw [Base.write, if_pos small]

theorem readNote?_of_toList {c : Channel} {text : String} {a b d : Char}
    (chars : text.toList = [a, b, d]) (dot : a ≠ '.') (dash : a ≠ '-') (equals : a ≠ '=') :
    readNote? c text =
      if c.isNoise then
        if b = '-' ∧ d.toNat < 128 then
          (Base.hex.digit? a).map fun n => .noise (UInt8.ofNat n)
        else none
      else do
        let semitone ← Note.semitoneNames.idxOf? (String.ofList [a, b])
        let octave ← Base.decimal.digit? d
        return .tone (UInt8.ofNat octave) (UInt8.ofNat semitone) := by
  have other {x y z : Char} (h : a ≠ x) : text ≠ String.ofList [x, y, z] := by
    rintro rfl
    rw [String.toList_ofList] at chars
    exact h (List.cons.inj chars).1.symm
  rw [readNote?, if_neg (other dot), if_neg (other dash), if_neg (other equals), chars]

theorem readNote?_label {c : Channel} {note : Note} (own : note.OnChannel c) :
    readNote? c note.label = some note := by
  cases note with
  | blank => rfl
  | halt => rfl
  | release => rfl
  | tone octave semitone =>
    obtain ⟨melodic, high, low⟩ := own
    obtain ⟨a, b, named, found, -, dot, dash, equals⟩ :=
      semitoneNames_spec semitone.toNat (by omega)
    have small : octave.toNat < Base.decimal.radix := by
      change octave.toNat < 10
      omega
    have chars : (Note.tone octave semitone).label.toList
        = [a, b, Base.digitChar octave.toNat] := by
      rw [Note.label, named, Option.getD_some, Text.decimal, write_of_lt small]
      simp
    rw [readNote?_of_toList chars dot dash equals, if_neg (by simp [melodic]), found,
      Base.digit?_digitChar _ small]
    simp
  | noise period =>
    obtain ⟨noisy, low⟩ := own
    have small : period.toNat < Base.hex.radix := by
      change period.toNat < 16
      omega
    have unsigned : ∀ d < 16, Base.digitChar d ≠ '.' ∧ Base.digitChar d ≠ '-'
        ∧ Base.digitChar d ≠ '=' := by decide
    obtain ⟨dot, dash, equals⟩ := unsigned period.toNat small
    have chars : (Note.noise period).label.toList
        = [Base.digitChar period.toNat, '-', '#'] := by
      rw [Note.label, Text.hex, write_of_lt small]
      simp [Text.padLeft]
    rw [readNote?_of_toList chars dot dash equals, if_pos noisy, if_pos (by decide),
      Base.digit?_digitChar _ small]
    simp

theorem symbol_label {c : Channel} {note : Note} (own : note.OnChannel c) : Symbol note.label := by
  cases note with
  | blank => decide
  | halt => decide
  | release => decide
  | tone octave semitone =>
    obtain ⟨a, b, named, -, symbol, -⟩ :=
      semitoneNames_spec semitone.toNat (Nat.lt_succ_of_le own.2.2)
    rw [Note.label, named]
    exact symbol.append (.of_spells (Base.spells_decimal _))
  | noise period => exact (Symbol.of_spells (Base.spells_hex 1 _)).append (by decide)

/-! Effects -/

theorem length_hexByte (b : UInt8) : (Text.hexByte b).toList.length = 2 := by
  have bound := b.toNat_lt
  have written : (Base.hex.write b.toNat).length ≤ 2 := by
    rw [Base.write]
    split_ifs with small
    · exact Nat.le_succ 1
    · have high : b.toNat / Base.hex.radix < Base.hex.radix := by
        change b.toNat / 16 < 16
        omega
      rw [write_of_lt high]
      exact Nat.le_refl 2
  rw [Text.hexByte, Text.hex, String.toList_ofList, Text.padLeft, List.length_append,
    List.length_replicate]
  omega

theorem toNat_letter (e : Effect) : e.letter.toNat = e.code.toNat := by
  have bound := e.code.toNat_lt
  have valid : e.code.toNat.isValidChar := Or.inl (by omega)
  rw [Effect.letter, Char.ofNat, dif_pos valid]
  rfl

theorem toList_label_effect (e : Effect) :
    e.label.toList = e.letter :: (Text.hexByte e.param).toList := by
  simp [Effect.label]

theorem readEffect?_label {e : Effect} (letter : isAsciiLetterOrDigit e.letter) :
    readEffect? e.label = some (.effect e) := by
  obtain ⟨b, c, digits⟩ := List.length_eq_two.mp (length_hexByte e.param)
  have chars : e.label.toList = [e.letter, b, c] := by rw [toList_label_effect, digits]
  have read := (Base.spells_hex 2 e.param.toNat).read?
  have noBlank : e.label ≠ "..." := by
    intro same
    have first : e.letter = '.' := (List.cons.inj (chars.symm.trans (congrArg _ same))).1
    rw [first] at letter
    exact absurd letter (by decide)
  rw [Text.hexByte] at digits
  rw [digits] at read
  simp only [readEffect?, if_neg noBlank, chars, if_pos letter, read, Option.map_some, toNat_letter,
    UInt8.ofNat_toNat]

theorem symbol_label_effect {e : Effect} (letter : isAsciiLetterOrDigit e.letter) :
    Symbol e.label := by
  refine Symbol.append ⟨by simp, fun c member => ?_⟩ (.of_spells (Base.spells_hex 2 _))
  obtain rfl : c = e.letter := by simpa using member
  simp only [isAsciiLetterOrDigit, Bool.or_eq_true, Bool.and_eq_true, decide_eq_true_eq] at letter
  have bounds {low high : Char} (within : low ≤ e.letter ∧ e.letter ≤ high) :
      low.toNat ≤ e.letter.toNat ∧ e.letter.toNat ≤ high.toNat := within
  have inside : (48 ≤ e.letter.toNat ∧ e.letter.toNat ≤ 57) ∨ (97 ≤ e.letter.toNat
      ∧ e.letter.toNat ≤ 122) ∨ (65 ≤ e.letter.toNat ∧ e.letter.toNat ≤ 90) := by
    rcases letter with (digit | small) | capital
    · exact .inl (bounds digit)
    · exact .inr (.inl (bounds small))
    · exact .inr (.inr (bounds capital))
  have apart {c : Char} (h : e.letter.toNat ≠ c.toNat) : e.letter ≠ c := fun same => h (same ▸ rfl)
  refine ⟨by omega, by omega, apart ?_, apart ?_⟩
  · change e.letter.toNat ≠ 34
    omega
  · change e.letter.toNat ≠ 58
    omega

theorem EffectColumns.read {es : List Effect} {fields : List String} (h : EffectColumns es fields)
    (letters : ∀ e ∈ es, isAsciiLetterOrDigit e.letter) : readEffects? fields = some es := by
  induction h with
  | nil => rfl
  | blank _ ih =>
    have blank : readEffect? "..." = some .blank := if_pos rfl
    rw [readEffects?, blank]
    exact ih letters
  | effect e _ ih =>
    rw [readEffects?, readEffect?_label (letters e List.mem_cons_self),
      ih fun d member => letters d (List.mem_cons_of_mem e member)]
    rfl

theorem EffectColumns.symbol {es : List Effect} {fields : List String}
    (h : EffectColumns es fields) (letters : ∀ e ∈ es, isAsciiLetterOrDigit e.letter) :
    ∀ f ∈ fields, Symbol f := by
  induction h with
  | nil => exact fun _ member => absurd member List.not_mem_nil
  | blank _ ih =>
    intro f member
    rcases List.mem_cons.mp member with rfl | later
    · decide
    · exact ih letters f later
  | effect e _ ih =>
    intro f member
    rcases List.mem_cons.mp member with rfl | later
    · exact symbol_label_effect (letters e List.mem_cons_self)
    · exact ih (fun d there => letters d (List.mem_cons_of_mem e there)) f later

/-! Cells -/

theorem dot_not_mem_of_spells {b : Base} {n : Nat} {s : String} (h : b.Spells n s) :
    '.' ∉ s.toList := by
  intro member
  obtain ⟨d, small, same⟩ := h.digitChar_of_mem member
  exact (by decide : ∀ d < 16, '.' ≠ Base.digitChar d) d small same

theorem readInstrument?_of_column {n : Option UInt8} {field : String}
    (h : NumberColumn ".." n field) : readInstrument? field = some n := by
  cases h with
  | none => rfl
  | some spelled =>
    have other : field ≠ ".." := by
      rintro rfl
      exact dot_not_mem_of_spells spelled (by decide)
    rw [readInstrument?, if_neg other, Text.byte?_of_spells spelled]
    rfl

theorem readVolume?_of_column {n : Option UInt8} {field : String} (h : NumberColumn "." n field)
    (small : ∀ level ∈ n, level.toNat ≤ 15) : readVolume? field = some n := by
  cases h with
  | none => rfl
  | some spelled =>
    rename_i level
    have low : level.toNat < 16 := Nat.lt_succ_of_le (small level rfl)
    have other : field ≠ "." := by
      rintro rfl
      exact dot_not_mem_of_spells spelled (by decide)
    rw [readVolume?, if_neg other, Text.natural?_of_spells spelled low, Option.map_some,
      UInt8.ofNat_toNat]
    rfl

theorem symbol_of_column {blank : String} (proper : Symbol blank) {n : Option UInt8}
    {field : String} (h : NumberColumn blank n field) : Symbol field := by
  cases h with
  | none => exact proper
  | some spelled => exact .of_spells spelled

theorem CellColumns.read {c : Channel} {cell : Cell} {fields : List String}
    (h : CellColumns cell fields) (exportable : cell.Exportable c) :
    readColumns? c fields = some ⟨cell, none⟩ := by
  obtain ⟨hi, hv, he, few⟩ := h
  rw [readColumns?, if_neg (Nat.not_lt.mpr few), readInstrument?_of_column hi,
    readVolume?_of_column hv exportable.volume, he.read exportable.letters]
  simp only [bind, pure, Option.bind_some, readNote?_label exportable.note]

theorem CellColumns.symbol {c : Channel} {cell : Cell} {fields : List String}
    (h : CellColumns cell fields) (exportable : cell.Exportable c) : ∀ f ∈ fields, Symbol f := by
  obtain ⟨hi, hv, he, -⟩ := h
  intro f member
  simp only [List.mem_cons] at member
  rcases member with rfl | rfl | rfl | effect
  · exact symbol_label exportable.note
  · exact symbol_of_column (by decide) hi
  · exact symbol_of_column (by decide) hv
  · exact he.symbol exportable.letters f effect

end TuneBank.Export
