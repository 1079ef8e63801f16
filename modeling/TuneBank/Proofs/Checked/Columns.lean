import Mathlib.Algebra.Group.Nat.Defs
import TuneBank.Proofs.Checked.Text

/-! The columns of a channel, read by bytes. A note and an effect are three bytes, of which single
ones are looked at; a character of more bytes among them only makes the column unreadable. At most
four effects are pushed, as more columns are refused before. -/

namespace TuneBank.Checked

def single (b : UInt8) : Char := Char.ofNat b.toNat

theorem toNat_single (b : UInt8) : (single b).toNat = b.toNat := by
  have valid : b.toNat.isValidChar := .inl (Nat.lt_trans b.toNat_lt (by decide))
  rw [single, Char.ofNat, dif_pos valid]
  rfl

theorem bytes_cons (c : Char) (cs : List Char) :
    bytes (c :: cs) = String.utf8EncodeChar c ++ bytes cs := List.flatMap_cons

theorem utf8EncodeChar_of_lt {c : Char} (plain : c.toNat < 128) :
    String.utf8EncodeChar c = [UInt8.ofNat c.toNat] := by
  have small : c.val.toNat ≤ 127 := Nat.le_of_lt_succ plain
  simp only [String.utf8EncodeChar, small, if_true]
  rfl

theorem utf8Size_of_lt {c : Char} (plain : c.toNat < 128) : c.utf8Size = 1 := by
  rw [← String.length_utf8EncodeChar, utf8EncodeChar_of_lt plain, List.length_singleton]

theorem single_of_lt {c : Char} (plain : c.toNat < 128) : single (UInt8.ofNat c.toNat) = c := by
  rw [single, UInt8.toNat_ofNat_of_lt' (Nat.lt_trans plain (by decide)), Char.ofNat_toNat]

theorem exists_utf8EncodeChar {c : Char} (wide : 128 ≤ c.toNat) :
    ∃ x y more, String.utf8EncodeChar c = x :: y :: more ∧ 128 ≤ x.toNat ∧ 128 ≤ y.toNat := by
  have big : ¬ c.val.toNat ≤ 127 := Nat.not_le.mpr wide
  simp only [String.utf8EncodeChar, if_neg big]
  split_ifs
  · exact ⟨_, _, _, rfl, by simp; omega, by simp; omega⟩
  · exact ⟨_, _, _, rfl, by simp; omega, by simp; omega⟩
  · exact ⟨_, _, _, rfl, by simp; omega, by simp; omega⟩

theorem two_le_utf8Size {c : Char} (wide : 128 ≤ c.toNat) : 2 ≤ c.utf8Size := by
  obtain ⟨x, y, more, encoded, -, -⟩ := exists_utf8EncodeChar wide
  rw [← String.length_utf8EncodeChar, encoded, List.length_cons, List.length_cons]
  omega

theorem eq_nil_of_width {cs : List Char} (h : width cs = 0) : cs = [] := by
  cases cs with
  | nil => rfl
  | cons c cs =>
    have size := c.utf8Size_pos
    rw [width_cons] at h
    omega

def Plain (text : String) (a b d : Char) : Prop :=
  text.toList = [a, b, d] ∧ a.toNat < 128 ∧ b.toNat < 128 ∧ d.toNat < 128

theorem Plain.bytes {text : String} {a b d : Char} (h : Plain text a b d) :
    bytes text.toList = [UInt8.ofNat a.toNat, UInt8.ofNat b.toNat, UInt8.ofNat d.toNat] := by
  obtain ⟨chars, ha, hb, hd⟩ := h
  simp only [chars, bytes_cons, utf8EncodeChar_of_lt ha, utf8EncodeChar_of_lt hb,
    utf8EncodeChar_of_lt hd]
  rfl

theorem Plain.index {text : String} {a b d : Char} (h : Plain text a b d) :
    index (Checked.bytes text.toList) 0 = .ok (UInt8.ofNat a.toNat)
      ∧ index (Checked.bytes text.toList) 1 = .ok (UInt8.ofNat b.toNat)
      ∧ index (Checked.bytes text.toList) 2 = .ok (UInt8.ofNat d.toNat) := by
  rw [h.bytes]
  exact ⟨rfl, rfl, rfl⟩

theorem Plain.length {text : String} {a b d : Char} (h : Plain text a b d) :
    (Checked.bytes text.toList).length = 3 := by
  rw [h.bytes]
  rfl

theorem wide_of_three_bytes {text : String} (three : (bytes text.toList).length = 3)
    (other : ¬ ∃ a b d, Plain text a b d) :
    (∃ a rest, text.toList = a :: rest ∧ 128 ≤ a.toNat)
      ∨ ∃ a b, text.toList = [a, b] ∧ a.toNat < 128 ∧ 128 ≤ b.toNat := by
  rw [length_bytes] at three
  rcases chars : text.toList with _ | ⟨a, rest⟩
  · simp [chars] at three
  · rw [chars, width_cons] at three
    by_cases ha : a.toNat < 128
    · rw [utf8Size_of_lt ha] at three
      rcases rest with _ | ⟨b, rest⟩
      · simp at three
      · rw [width_cons] at three
        by_cases hb : b.toNat < 128
        · rw [utf8Size_of_lt hb] at three
          rcases rest with _ | ⟨d, rest⟩
          · simp at three
          · rw [width_cons] at three
            have size := d.utf8Size_pos
            obtain rfl : rest = [] := eq_nil_of_width (by omega)
            refine absurd ⟨a, b, d, chars, ha, hb, ?_⟩ other
            refine Decidable.byContradiction fun wide => ?_
            have := two_le_utf8Size (Nat.le_of_not_lt wide)
            omega
        · have size := two_le_utf8Size (Nat.le_of_not_lt hb)
          obtain rfl : rest = [] := eq_nil_of_width (by omega)
          exact .inr ⟨a, b, rfl, ha, Nat.le_of_not_lt hb⟩
    · exact .inl ⟨a, rest, rfl, Nat.le_of_not_lt ha⟩

def readNote (c : Channel) (text : String) : Checked (Option Note) :=
  if text = "..." then .ok (some .blank)
  else if text = "---" then .ok (some .halt)
  else if text = "===" then .ok (some .release)
  else if (bytes text.toList).length ≠ 3 then .ok none
  else if c.isNoise then do
    let dash ← index (bytes text.toList) 1
    if single dash ≠ '-' then return none
    let digit ← index (bytes text.toList) 0
    return (Text.Base.hex.digit? (single digit)).map fun n => .noise (UInt8.ofNat n)
  else
    match cut 2 text.toList with
    | .error _ => .ok none
    | .ok (name, _) =>
      match Note.semitoneNames.idxOf? (String.ofList name) with
      | none => .ok none
      | some semitone => do
        let digit ← index (bytes text.toList) 2
        return (Text.Base.decimal.digit? (single digit)).map fun octave =>
          .tone (UInt8.ofNat octave) (UInt8.ofNat semitone)

theorem plain_of_semitone {name : List Char} {n : Nat}
    (h : Note.semitoneNames.idxOf? (String.ofList name) = some n) :
    name.length = 2 ∧ ∀ c ∈ name, c.toNat < 128 := by
  have each : ∀ s ∈ Note.semitoneNames,
      s.toList.length = 2 ∧ s.toList.all fun c => c.toNat < 128 := by decide
  have member : String.ofList name ∈ Note.semitoneNames := by
    obtain ⟨bound, same, -⟩ := List.idxOf?_eq_some_iff.mp h
    exact List.mem_of_getElem same
  simpa using each _ member

theorem readNote?_eq_none {c : Channel} {text : String} (blank : text ≠ "...") (halt : text ≠ "---")
    (release : text ≠ "===") (other : ¬ ∃ a b d, Plain text a b d) :
    Export.readNote? c text = none := by
  rw [Export.readNote?, if_neg blank, if_neg halt, if_neg release]
  split
  · rename_i a b d chars
    refine Option.eq_none_iff_forall_not_mem.mpr fun note read => other ⟨a, b, d, chars, ?_⟩
    split_ifs at read with noisy dash
    · obtain ⟨n, digit, -⟩ := Option.map_eq_some_iff.mp read
      exact ⟨Text.Base.toNat_lt_of_digit? digit, dash.1 ▸ (by decide), dash.2⟩
    · exact nomatch read
    · simp only [bind, Option.mem_def, Option.bind_eq_some_iff] at read
      obtain ⟨semitone, named, octave, digit, -⟩ := read
      have letters := (plain_of_semitone named).2
      exact ⟨letters a (by simp), letters b (by simp), Text.Base.toNat_lt_of_digit? digit⟩
  · rfl

theorem single_ne_dash {b : UInt8} (high : 128 ≤ b.toNat) : single b ≠ '-' := by
  intro dash
  rw [← toNat_single b, dash] at high
  exact absurd high (by decide)

theorem unreadable_of_three_bytes {text : String} (three : (bytes text.toList).length = 3)
    (other : ¬ ∃ a b d, Plain text a b d) :
    (∃ x, (bytes text.toList)[1]? = some x ∧ single x ≠ '-')
      ∧ ∀ name back, cut 2 text.toList = .ok (name, back) →
        Note.semitoneNames.idxOf? (String.ofList name) = none := by
  rcases wide_of_three_bytes three other with ⟨a, rest, chars, wide⟩ | ⟨a, b, chars, ha, wide⟩
  · obtain ⟨x, y, more, encoded, -, high⟩ := exists_utf8EncodeChar wide
    refine ⟨⟨y, by rw [chars, bytes_cons, encoded]; rfl, single_ne_dash high⟩, ?_⟩
    intro name back h
    have size := two_le_utf8Size wide
    rw [chars, cut_cons (by decide)] at h
    split_ifs at h with inside
    obtain rfl : name = [a] := by
      rw [show 2 - a.utf8Size = 0 by omega, cut_zero] at h
      exact (Prod.mk.inj (Except.ok.inj h)).1.symm
    exact Option.eq_none_iff_forall_ne_some.mpr fun n named =>
      absurd (plain_of_semitone named).1 (by simp)
  · obtain ⟨x, y, more, encoded, high, -⟩ := exists_utf8EncodeChar wide
    refine ⟨⟨x, ?_, single_ne_dash high⟩, ?_⟩
    · rw [chars, bytes_cons, utf8EncodeChar_of_lt ha, bytes_cons, encoded]
      rfl
    · intro name back h
      have size := two_le_utf8Size wide
      rw [chars, cut_cons (by decide), utf8Size_of_lt ha, if_neg (by decide),
        cut_cons (by decide), if_pos (by omega)] at h
      exact nomatch h

theorem readNote_value (c : Channel) (text : String) :
    readNote c text = .ok (Export.readNote? c text) := by
  by_cases blank : text = "..."
  · rw [readNote, Export.readNote?, if_pos blank, if_pos blank]
  by_cases halt : text = "---"
  · rw [readNote, Export.readNote?, if_neg blank, if_neg blank, if_pos halt, if_pos halt]
  by_cases release : text = "==="
  · rw [readNote, Export.readNote?, if_neg blank, if_neg blank, if_neg halt, if_neg halt,
      if_pos release, if_pos release]
  rw [readNote, if_neg blank, if_neg halt, if_neg release]
  by_cases plain : ∃ a b d, Plain text a b d
  · obtain ⟨a, b, d, plain⟩ := plain
    obtain ⟨first, second, third⟩ := plain.index
    have three := plain.length
    obtain ⟨chars, ha, hb, hd⟩ := plain
    rw [chars] at first second third
    have name : cut 2 [a, b, d] = .ok ([a, b], [d]) := by
      simpa [utf8Size_of_lt ha, utf8Size_of_lt hb] using cut_value [a, b] [d]
    rw [if_neg (not_not.mpr three), Export.readNote?, if_neg blank, if_neg halt, if_neg release]
    by_cases noisy : c.isNoise
    · simp only [if_pos noisy, first, second, ok_bind, single_of_lt ha, single_of_lt hb, chars, hd,
        and_true]
      by_cases dash : b = '-'
      · simp [dash]
      · simp [dash]
    · simp only [if_neg noisy, name, third, ok_bind, single_of_lt hd, chars]
      cases Note.semitoneNames.idxOf? (String.ofList [a, b]) with
      | none => rfl
      | some semitone => cases Text.Base.decimal.digit? d <;> rfl
  · rw [readNote?_eq_none blank halt release plain]
    by_cases three : (bytes text.toList).length = 3
    · obtain ⟨⟨x, second, noDash⟩, noName⟩ := unreadable_of_three_bytes three plain
      rw [if_neg (not_not.mpr three)]
      by_cases noisy : c.isNoise
      · rw [if_pos noisy, index_value second, ok_bind, if_pos noDash]
        rfl
      · rw [if_neg noisy]
        split
        · rfl
        · rename_i name back front
          rw [noName name back front]
    · rw [if_pos three]

def readEffect (text : String) : Checked (Option Export.EffectColumn) :=
  if text = "..." then .ok (some .blank)
  else if (bytes text.toList).length ≠ 3 then .ok none
  else do
    let letter ← index (bytes text.toList) 0
    if !Export.isAsciiLetterOrDigit (single letter) then return none
    let (_, param) ← cut 1 text.toList
    return (Text.byte? .hex (String.ofList param)).map fun n => .effect ⟨letter, n⟩

theorem toNat_lt_of_readFrom? {b : Text.Base} {cs : List Char} {m n : Nat}
    (h : b.readFrom? m cs = some n) :
    n < (m + 1) * b.radix ^ cs.length ∧ ∀ c ∈ cs, c.toNat < 128 := by
  induction cs generalizing m with
  | nil =>
    obtain rfl := Option.some.inj h
    exact ⟨by simp, fun _ member => absurd member List.not_mem_nil⟩
  | cons c cs ih =>
    rw [Text.Base.readFrom?] at h
    split at h
    · rename_i d digit
      obtain ⟨small, plain⟩ := ih h
      refine ⟨?_, List.forall_mem_cons.mpr ⟨Text.Base.toNat_lt_of_digit? digit, plain⟩⟩
      calc n < (b.radix * m + d + 1) * b.radix ^ cs.length := small
        _ ≤ (m + 1) * b.radix * b.radix ^ cs.length := by
          have below := b.digit?_lt digit
          exact Nat.mul_le_mul_right _ (by rw [Nat.succ_mul, Nat.mul_comm m]; omega)
        _ = (m + 1) * b.radix ^ (c :: cs).length := by
          rw [List.length_cons, Nat.pow_succ, Nat.mul_assoc, Nat.mul_comm b.radix]
    · cases h

theorem toNat_lt_of_read? {b : Text.Base} {cs : List Char} {n : Nat} (h : b.read? cs = some n) :
    n < b.radix ^ cs.length ∧ ∀ c ∈ cs, c.toNat < 128 := by
  have digits {ds : List Char} (h : b.digits? ds = some n) :
      n < b.radix ^ ds.length ∧ ∀ c ∈ ds, c.toNat < 128 := by
    cases ds with
    | nil => exact nomatch h
    | cons d ds => simpa using toNat_lt_of_readFrom? h
  unfold Text.Base.read? at h
  split at h
  · obtain ⟨small, plain⟩ := digits h
    refine ⟨Nat.lt_of_lt_of_le small ?_, List.forall_mem_cons.mpr ⟨by decide, plain⟩⟩
    exact Nat.pow_le_pow_right (Nat.zero_lt_of_lt b.one_lt_radix) (Nat.le_succ _)
  · exact digits h

theorem byte?_of_two {cs : List Char} (short : cs.length ≤ 2) :
    Text.byte? .hex (String.ofList cs) = (Text.Base.hex.read? cs).map UInt8.ofNat := by
  rw [Text.byte?, Text.natural?, String.toList_ofList]
  cases read : Text.Base.hex.read? cs with
  | none => rfl
  | some n =>
    have small : n < 16 ^ 2 := Nat.lt_of_lt_of_le (toNat_lt_of_read? read).1
      (Nat.pow_le_pow_right (by decide) short)
    rw [Option.filter_some, if_pos (by simpa using small)]

theorem readEffect?_eq_none {text : String} (blank : text ≠ "...")
    (other : ¬ ∃ a b d, Plain text a b d) : Export.readEffect? text = none := by
  rw [Export.readEffect?, if_neg blank]
  split
  · rename_i a b d chars
    refine Option.eq_none_iff_forall_not_mem.mpr fun column read => other ⟨a, b, d, chars, ?_⟩
    split_ifs at read with letter
    · obtain ⟨n, param, -⟩ := Option.map_eq_some_iff.mp read
      have digits := (toNat_lt_of_read? param).2
      exact ⟨Export.toNat_lt_of_isAsciiLetterOrDigit letter, digits b (by simp), digits d (by simp)⟩
    · exact nomatch read
  · rfl

theorem ineffective_of_three_bytes {text : String} (three : (bytes text.toList).length = 3)
    (other : ¬ ∃ a b d, Plain text a b d) :
    ∃ x, (bytes text.toList)[0]? = some x
      ∧ (Export.isAsciiLetterOrDigit (single x) = false
        ∨ ∃ front param, cut 1 text.toList = .ok (front, param)
          ∧ Text.byte? .hex (String.ofList param) = none) := by
  rcases wide_of_three_bytes three other with ⟨a, rest, chars, wide⟩ | ⟨a, b, chars, ha, wide⟩
  · obtain ⟨x, y, more, encoded, high, -⟩ := exists_utf8EncodeChar wide
    refine ⟨x, by rw [chars, bytes_cons, encoded]; rfl, .inl ?_⟩
    refine Bool.eq_false_iff.mpr fun letter => ?_
    have low := Export.toNat_lt_of_isAsciiLetterOrDigit letter
    rw [toNat_single] at low
    omega
  · refine ⟨UInt8.ofNat a.toNat, by rw [chars, bytes_cons, utf8EncodeChar_of_lt ha]; rfl,
      .inr ⟨[a], [b], ?_, ?_⟩⟩
    · simpa [chars, utf8Size_of_lt ha] using cut_value [a] [b]
    · rw [byte?_of_two (by simp)]
      refine Option.map_eq_none_iff.mpr (Option.eq_none_iff_forall_ne_some.mpr fun n read => ?_)
      have low := (toNat_lt_of_read? read).2 b (by simp)
      omega

theorem readEffect_value (text : String) : readEffect text = .ok (Export.readEffect? text) := by
  by_cases blank : text = "..."
  · rw [readEffect, Export.readEffect?, if_pos blank, if_pos blank]
  by_cases plain : ∃ a b d, Plain text a b d
  · obtain ⟨a, b, d, plain⟩ := plain
    obtain ⟨first, -, -⟩ := plain.index
    have three := plain.length
    obtain ⟨chars, ha, hb, hd⟩ := plain
    rw [chars] at first
    have parts : cut 1 [a, b, d] = .ok ([a], [b, d]) := by
      simpa [utf8Size_of_lt ha] using cut_value [a] [b, d]
    rw [readEffect, Export.readEffect?, if_neg blank, if_neg blank, if_neg (not_not.mpr three)]
    have number := byte?_of_two (show [b, d].length ≤ 2 from Nat.le_refl 2)
    simp only [first, parts, ok_bind, single_of_lt ha, number, Option.map_map, chars]
    cases Export.isAsciiLetterOrDigit a <;> rfl
  · rw [readEffect?_eq_none blank plain, readEffect, if_neg blank]
    by_cases three : (bytes text.toList).length = 3
    · obtain ⟨x, first, noLetter | ⟨front, param, parts, noNumber⟩⟩ :=
        ineffective_of_three_bytes three plain
      · rw [if_neg (not_not.mpr three), index_value first, ok_bind, noLetter]
        rfl
      · rw [if_neg (not_not.mpr three), index_value first, ok_bind, parts]
        simp only [ok_bind, noNumber]
        cases Export.isAsciiLetterOrDigit (single x) <;> rfl
    · rw [if_pos three]

/-- The effects of the columns that hold one, pushed after those read before. -/
def readEffects : List Effect → List String → OptionT Checked (List Effect)
  | buffer, [] => given (some buffer)
  | buffer, text :: texts => do
    match ← step (readEffect text) with
    | none => given none
    | some .blank => readEffects buffer texts
    | some (.effect e) =>
      let buffer ← step (push Cell.maxEffects buffer e)
      readEffects buffer texts

theorem readEffects_value {buffer : List Effect} {texts : List String}
    (room : buffer.length + texts.length ≤ Cell.maxEffects) :
    readEffects buffer texts = given ((Export.readEffects? texts).map (buffer ++ ·)) := by
  induction texts generalizing buffer with
  | nil => simp [readEffects, Export.readEffects?]
  | cons text texts ih =>
    rw [List.length_cons] at room
    rw [readEffects, readEffect_value, step_ok_bind, Export.readEffects?]
    rcases Export.readEffect? text with _ | _ | e
    · rfl
    · exact ih (by omega)
    · have later : (buffer ++ [e]).length + texts.length ≤ Cell.maxEffects := by
        rw [List.length_append, List.length_singleton]
        omega
      simp only [push_value (show buffer.length < Cell.maxEffects by omega), step_ok_bind, ih later,
        Option.map_map]
      congr 2
      funext es
      exact List.append_assoc buffer [e] es

def readColumns (c : Channel) : List String → Checked (Option Export.Columns)
  | note :: instrument :: volume :: effects =>
    if effects.length > Cell.maxEffects then .ok none
    else OptionT.run do
      let known ← step (readNote c note)
      let instrument ← given (Export.readInstrument? instrument)
      let volume ← given (Export.readVolume? volume)
      let effects ← readEffects [] effects
      return match known with
        | some n => ⟨⟨n, instrument, volume, effects⟩, none⟩
        | none => ⟨⟨.blank, instrument, volume, effects⟩, some note⟩
  | _ => .ok none

theorem readColumns_value (c : Channel) (texts : List String) :
    readColumns c texts = .ok (Export.readColumns? c texts) := by
  match texts with
  | [] | [_] | [_, _] => rfl
  | note :: instrument :: volume :: effects =>
    by_cases many : effects.length > Cell.maxEffects
    · simp only [readColumns, Export.readColumns?, if_pos many]
    · have room : ([] : List Effect).length + effects.length ≤ Cell.maxEffects := by
        simpa using many
      simp only [readColumns, Export.readColumns?, if_neg many, readNote_value, step_ok_bind,
        readEffects_value room, List.nil_append, Option.map_id', pure_eq_given, given_bind_given]
      rfl

end TuneBank.Checked
