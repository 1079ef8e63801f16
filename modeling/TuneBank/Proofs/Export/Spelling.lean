import TuneBank.Proofs.Export.Columns

/-! Whether a column prints as the text it was read from. Hexadecimal letters may be small in a
text, so the two are compared up to case. Notes and effects take two kinds of text that nothing
prints as: a period class before any last character, and a plus sign before a single digit. -/

namespace TuneBank

namespace Text

/-- The texts are equal up to the case of the letters of the basic alphabet. -/
def SameLetters (s t : String) : Prop := s.toList.map Char.toUpper = t.toList.map Char.toUpper

instance (s t : String) : Decidable (SameLetters s t) :=
  inferInstanceAs (Decidable (s.toList.map Char.toUpper = t.toList.map Char.toUpper))

theorem forall_ascii {P : Char → Prop} (h : ∀ n < 128, P (Char.ofNat n)) {c : Char}
    (small : c.toNat < 128) : P c :=
  Char.ofNat_toNat c ▸ h c.toNat small

namespace Base

theorem digitChar_of_digit? {c : Char} {d : Nat} (h : decimal.digit? c = some d) :
    digitChar d = c :=
  forall_ascii (P := fun c => ∀ d ∈ decimal.digit? c, digitChar d = c) (by decide)
    (toNat_lt_of_digit? h) d h

theorem toUpper_digitChar {c : Char} {d : Nat} (h : hex.digit? c = some d) :
    (digitChar d).toUpper = c.toUpper :=
  forall_ascii (P := fun c => ∀ d ∈ hex.digit? c, (digitChar d).toUpper = c.toUpper) (by decide)
    (toNat_lt_of_digit? h) d h

theorem read?_pair {c d : Char} {n : Nat} (h : hex.read? [c, d] = some n) :
    (c = '+' ∧ hex.digit? d = some n)
      ∨ c ≠ '+' ∧ ∃ high low, hex.digit? c = some high ∧ hex.digit? d = some low
        ∧ n = 16 * high + low := by
  rw [read?.eq_def] at h
  split at h
  · rename_i cs same
    obtain ⟨rfl, rfl⟩ := List.cons.inj same
    rw [digits?, readFrom?] at h
    split at h
    · rename_i low digit
      obtain rfl := Option.some.inj h
      exact .inl ⟨rfl, by rwa [Nat.mul_zero, Nat.zero_add]⟩
    · cases h
  · rename_i unsigned
    rw [digits?, readFrom?] at h
    split at h
    · rename_i high first
      rw [readFrom?] at h
      split at h
      · rename_i low second
        obtain rfl := Option.some.inj h
        exact .inr ⟨fun plus => unsigned [d] (plus ▸ rfl), high, low, first, second,
          by rw [Nat.mul_zero, Nat.zero_add]; rfl⟩
      · cases h
    · cases h

end Base

end Text

open List (Forall₂)
open Text (Base SameLetters)

namespace Export

/-! Notes -/

theorem label_tone {octave semitone : Nat} {a b : Char} (high : octave < 10) (low : semitone < 12)
    (named : Note.semitoneNames[semitone]? = some (String.ofList [a, b])) :
    (Note.tone (UInt8.ofNat octave) (UInt8.ofNat semitone)).label.toList
      = [a, b, Base.digitChar octave] := by
  rw [Note.label, UInt8.toNat_ofNat_of_lt' (Nat.lt_trans low (by decide)),
    UInt8.toNat_ofNat_of_lt' (Nat.lt_trans high (by decide)), named, Option.getD_some, Text.decimal,
    write_of_lt (b := .decimal) high]
  simp

theorem label_noise {period : Nat} (small : period < 16) :
    (Note.noise (UInt8.ofNat period)).label.toList = [Base.digitChar period, '-', '#'] := by
  rw [Note.label, UInt8.toNat_ofNat_of_lt' (Nat.lt_trans small (by decide)), Text.hex,
    write_of_lt (b := .hex) small]
  simp [Text.padLeft]

theorem readNote?_cases {c : Channel} {text : String} {note : Note}
    (h : readNote? c text = some note) :
    ((∀ period, note ≠ .noise period) ∧ note.label = text)
      ∨ ∃ a d period, text.toList = [a, '-', d] ∧ d.toNat < 128 ∧ Base.hex.digit? a = some period
        ∧ note = .noise (UInt8.ofNat period) := by
  unfold readNote? at h
  split_ifs at h with blank halt release noisy
  · obtain rfl := Option.some.inj h
    exact .inl ⟨nofun, blank.symm⟩
  · obtain rfl := Option.some.inj h
    exact .inl ⟨nofun, halt.symm⟩
  · obtain rfl := Option.some.inj h
    exact .inl ⟨nofun, release.symm⟩
  · split at h
    · rename_i a b d chars
      split_ifs at h with dashed
      obtain ⟨period, digit, rfl⟩ := Option.map_eq_some_iff.mp h
      exact .inr ⟨a, d, period, dashed.1 ▸ chars, dashed.2, digit, rfl⟩
    · exact nomatch h
  · split at h
    · rename_i a b d chars
      simp only [bind, pure, Option.bind_eq_some_iff, Option.some.injEq] at h
      obtain ⟨semitone, named, octave, digit, rfl⟩ := h
      obtain ⟨low, listed, -⟩ := List.idxOf?_eq_some_iff.mp named
      have label := label_tone (Base.decimal.digit?_lt digit) low
        (List.getElem?_eq_some_iff.mpr ⟨low, by simpa using listed⟩)
      rw [Base.digitChar_of_digit? digit, ← chars] at label
      exact .inl ⟨nofun, String.toList_inj.mp label⟩
    · exact nomatch h

theorem sameLetters_label_iff {c : Channel} {text : String} {note : Note}
    (h : readNote? c text = some note) :
    SameLetters note.label text ↔ ∀ period, note = .noise period → text.toList[2]? = some '#' := by
  rcases readNote?_cases h with ⟨pitched, rfl⟩ | ⟨a, d, period, chars, ascii, digit, rfl⟩
  · exact iff_of_true rfl fun period same => absurd same (pitched period)
  · have last : '#' = d.toUpper ↔ d = '#' :=
      Text.forall_ascii (P := fun d => '#' = d.toUpper ↔ d = '#') (by decide) ascii
    have label := label_noise (Base.hex.digit?_lt digit)
    rw [SameLetters, label, chars]
    simp [Base.toUpper_digitChar digit, last]

/-! Effects -/

theorem toList_hexByte {high low : Nat} (first : high < 16) (second : low < 16) :
    (Text.hexByte (UInt8.ofNat (16 * high + low))).toList
      = [Base.digitChar high, Base.digitChar low] := by
  have bound : 16 * high + low < 256 := by omega
  have quotient : (16 * high + low) / 16 = high := by omega
  have remainder : (16 * high + low) % 16 = low := by omega
  rw [Text.hexByte, UInt8.toNat_ofNat_of_lt' bound, Text.hex, String.toList_ofList, Base.write]
  change Text.padLeft 2 '0' (if 16 * high + low < 16 then _
    else Base.hex.write ((16 * high + low) / 16) ++ [Base.digitChar ((16 * high + low) % 16)]) = _
  rw [quotient, remainder, write_of_lt (b := .hex) first]
  split_ifs with single
  · obtain rfl : high = 0 := by omega
    rw [Nat.mul_zero, Nat.zero_add]
    rfl
  · rfl

theorem toList_label_of_digits {a : Char} (ascii : isAsciiLetterOrDigit a) {high low : Nat}
    (first : high < 16) (second : low < 16) :
    (Effect.label ⟨UInt8.ofNat a.toNat, UInt8.ofNat (16 * high + low)⟩).toList
      = [a, Base.digitChar high, Base.digitChar low] := by
  have small := toNat_lt_of_isAsciiLetterOrDigit ascii
  have letter : Char.ofNat (UInt8.ofNat a.toNat).toNat = a := by
    rw [UInt8.toNat_ofNat_of_lt' (Nat.lt_trans small (by decide)), Char.ofNat_toNat]
  rw [toList_label_effect, toList_hexByte first second, Effect.letter, letter]

theorem readEffect?_cases {text : String} {e : Effect} (h : readEffect? text = some (.effect e)) :
    (text.toList[1]? ≠ some '+' ∧ SameLetters e.label text)
      ∨ ∃ a c digit, text.toList = [a, '+', c] ∧ e.label.toList = [a, '0', digit] := by
  unfold readEffect? at h
  split_ifs at h
  · cases h
  · split at h
    · rename_i a b c chars
      split_ifs at h with ascii
      obtain ⟨n, read, same⟩ := Option.map_eq_some_iff.mp h
      obtain rfl := EffectColumn.effect.inj same
      rcases Base.read?_pair read with ⟨rfl, digit⟩ | ⟨unsigned, high, low, first, second, rfl⟩
      · have label := toList_label_of_digits ascii (Nat.zero_lt_succ 15)
          (Base.hex.digit?_lt digit)
        rw [Nat.mul_zero, Nat.zero_add] at label
        exact .inr ⟨a, c, _, chars, label⟩
      · have label := toList_label_of_digits ascii (Base.hex.digit?_lt first)
          (Base.hex.digit?_lt second)
        refine .inl ⟨by simpa [chars] using unsigned, ?_⟩
        rw [SameLetters, chars, label]
        simp [Base.toUpper_digitChar first, Base.toUpper_digitChar second]
    · cases h

theorem sameLetters_label_effect_iff {text : String} {e : Effect}
    (h : readEffect? text = some (.effect e)) :
    SameLetters e.label text ↔ text.toList[1]? ≠ some '+' := by
  rcases readEffect?_cases h with ⟨unsigned, same⟩ | ⟨a, c, digit, chars, label⟩
  · exact iff_of_true same unsigned
  · have other : ¬ SameLetters e.label text := by
      rw [SameLetters, label, chars]
      simp
    exact iff_of_false other (by simp [chars])

theorem eq_of_readEffect?_blank {text : String} (h : readEffect? text = some .blank) :
    text = "..." := by
  unfold readEffect? at h
  split_ifs at h with same
  · exact same
  · split at h
    · split_ifs at h
      obtain ⟨n, -, effect⟩ := Option.map_eq_some_iff.mp h
      cases effect
    · cases h

theorem forall₂_of_readEffects? {texts : List String} {es : List Effect}
    (h : readEffects? texts = some es) :
    Forall₂ (fun text e => readEffect? text = some (.effect e)) (texts.filter (· ≠ "...")) es := by
  induction texts generalizing es with
  | nil =>
    obtain rfl := Option.some.inj h
    exact .nil
  | cons text texts ih =>
    rw [readEffects?] at h
    split at h
    · cases h
    · rename_i read
      rw [List.filter_cons_of_neg (by simpa using eq_of_readEffect?_blank read)]
      exact ih h
    · rename_i e read
      obtain ⟨rest, later, rfl⟩ := Option.map_eq_some_iff.mp h
      have held : text ≠ "..." := by
        rintro rfl
        cases read
      rw [List.filter_cons_of_pos (by simpa using held)]
      exact .cons read (ih later)

theorem readEffects?_of_readColumns? {c : Channel} {note instrument volume : String}
    {effects : List String} {columns : Columns}
    (h : readColumns? c (note :: instrument :: volume :: effects) = some columns) :
    readEffects? effects = some columns.cell.effects := by
  rw [readColumns?] at h
  split_ifs at h
  simp only [bind, pure, Option.bind_eq_some_iff, Option.some.injEq] at h
  obtain ⟨_, -, _, -, es, read, rfl⟩ := h
  split
  · exact read
  · exact read

/-- A note and an effect print as the text they were read from, up to case, exactly if a period
class ends in its sharp and no plus sign stands for a digit. -/
theorem columns_print_as_read (c : Channel) :
    (∀ text note, readNote? c text = some note →
      (SameLetters note.label text
        ↔ ∀ period, note = .noise period → text.toList[2]? = some '#'))
      ∧ ∀ note instrument volume effects columns,
        readColumns? c (note :: instrument :: volume :: effects) = some columns →
          Forall₂ (fun text e => SameLetters e.label text ↔ text.toList[1]? ≠ some '+')
            (effects.filter (· ≠ "...")) columns.cell.effects :=
  ⟨fun _ _ => sameLetters_label_iff, fun _ _ _ _ _ accepted =>
    (forall₂_of_readEffects? (readEffects?_of_readColumns? accepted)).imp fun _ _ =>
      sameLetters_label_effect_iff⟩

theorem melodic_noise_and_plus_print_otherwise :
    (readNote? .noise "C-4" = some (.noise 12) ∧ ¬ SameLetters (Note.noise 12).label "C-4")
      ∧ (readColumns? .pulse1 ["...", "..", ".", "B+1"]).map (·.cell.effects) = some [⟨66, 1⟩]
      ∧ ¬ SameLetters (Effect.label ⟨66, 1⟩) "B+1" := by
  have note : readNote? .noise "C-4" = some (.noise 12) := by decide
  have effect : readEffect? "B+1" = some (.effect ⟨66, 1⟩) := by rfl
  refine ⟨⟨note, fun same => ?_⟩, by decide, fun same => ?_⟩
  · exact absurd ((sameLetters_label_iff note).mp same 12 rfl) (by decide)
  · exact absurd rfl ((sameLetters_label_effect_iff effect).mp same)

end Export

end TuneBank
