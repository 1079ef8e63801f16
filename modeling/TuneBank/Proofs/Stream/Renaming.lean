import Mathlib.Data.List.Forall2
import TuneBank.Proofs.Stream.Playback

/-! Streams under another numbering of the instruments. The encoder looks at an instrument number of
the pool only to write it, so two maps that are related number by number give streams that differ in
the operands of instrument changes and nowhere else. -/

namespace TuneBank.Bytecode

open List (Forall₂)

/-- The same token, but for the number of an instrument. -/
inductive Token.Matches (r : UInt8 → UInt8 → Prop) : Token → Token → Prop
  | instrument {a b : UInt8} (h : r a b) : Matches r (.instrument a) (.instrument b)
  | same {t : Token} (h : ∀ number, t ≠ .instrument number) : Matches r t t

variable {r : UInt8 → UInt8 → Prop}

theorem Token.Matches.length_bytes {t u : Token} (h : t.Matches r u) :
    t.bytes.length = u.bytes.length := by
  cases h with
  | instrument => rfl
  | same => rfl

theorem Token.matches_rightUnique (unique : Relator.RightUnique r) :
    Relator.RightUnique (Matches r) := by
  intro t u v first second
  cases first with
  | instrument h =>
    cases second with
    | instrument h' => rw [unique h h']
    | same other => exact absurd rfl (other _)
  | same other =>
    cases second with
    | instrument => exact absurd rfl (other _)
    | same => rfl

theorem Token.matches_leftUnique (unique : Relator.LeftUnique r) :
    Relator.LeftUnique (Matches r) := by
  intro t u v first second
  cases first with
  | instrument h =>
    cases second with
    | instrument h' => rw [unique h h']
    | same other => exact absurd rfl (other _)
  | same other =>
    cases second with
    | instrument => exact absurd rfl (other _)
    | same => rfl

theorem Token.length_flatMap_bytes {ts us : List Token} (h : Forall₂ (Matches r) ts us) :
    (ts.flatMap bytes).length = (us.flatMap bytes).length := by
  induction h with
  | nil => rfl
  | cons first _ ih => rw [List.flatMap_cons, List.flatMap_cons, List.length_append,
      List.length_append, first.length_bytes, ih]

theorem Token.matches_self {ts : List Token} (h : ∀ t ∈ ts, ∀ number, t ≠ .instrument number) :
    Forall₂ (Matches r) ts ts :=
  List.forall₂_same.mpr fun t member => .same (h t member)

theorem effectToken?_ne_instrument {e : Effect} {t : Token} (h : effectToken? e = some t)
    (number : UInt8) : t ≠ .instrument number := by
  rintro rfl
  unfold effectToken? at h
  split_ifs at h <;> exact nomatch Option.some.inj h

theorem Sound.token?_ne_instrument {sound : Sound} {t : Token} (h : sound.token? = some t)
    (number : UInt8) : t ≠ .instrument number := by
  rintro rfl
  cases sound with
  | silent => exact nomatch h
  | cut => exact nomatch Option.some.inj h
  | pitch => exact nomatch Option.some.inj h

variable {map map' : List UInt8} (related : Forall₂ r map map')
include related

theorem Running.after_eq (s : Running) (cell : Cell) : s.after map cell = s.after map' cell := by
  rw [after, after, related.length_eq]

theorem matches_instrumentToken? (s : Running) (instrument : Option UInt8) :
    Forall₂ (Token.Matches r) (s.instrumentToken? map instrument).toList
      (s.instrumentToken? map' instrument).toList := by
  unfold Running.instrumentToken?
  cases instrument.filter fun number => s.instrument ≠ some number with
  | none => exact .nil
  | some number =>
    rw [Option.bind_some, Option.bind_some]
    by_cases known : number.toNat < map.length
    · have known' : number.toNat < map'.length := related.length_eq ▸ known
      rw [List.getElem?_eq_getElem known, List.getElem?_eq_getElem known']
      exact .cons (.instrument (related.get known known')) .nil
    · rw [List.getElem?_eq_none (Nat.le_of_not_lt known),
        List.getElem?_eq_none (related.length_eq ▸ Nat.le_of_not_lt known)]
      exact .nil

theorem matches_codeCell (s : Running) (place : Location) (cell : Cell) :
    Forall₂ (Token.Matches r) (s.codeCell map place cell).tokens
      (s.codeCell map' place cell).tokens := by
  rw [tokens_codeCell, tokens_codeCell]
  refine List.rel_append (List.rel_append (List.rel_append ?_ ?_) ?_) ?_
  · refine Token.matches_self fun t member => ?_
    obtain ⟨e, -, effect⟩ := List.mem_filterMap.mp member
    exact effectToken?_ne_instrument effect
  · refine Token.matches_self fun t member number => ?_
    obtain ⟨level, -, rfl⟩ := Option.map_eq_some_iff.mp (Option.mem_toList.mp member)
    exact Token.noConfusion
  · exact matches_instrumentToken? related s cell.instrument
  · exact Token.matches_self fun t member =>
      Sound.token?_ne_instrument (Option.mem_toList.mp member)

omit related in
theorem SkipWriter.matches_gap (count : Nat) :
    Forall₂ (Token.Matches r) [gap count] [gap count] :=
  .cons (.same fun _ => Token.noConfusion) .nil

structure SkipWriter.Matches (r : UInt8 → UInt8 → Prop) (w w' : SkipWriter Token) : Prop where
  out : Forall₂ (Token.Matches r) w.out w'.out
  pending : w.pending = w'.pending

omit related in
theorem SkipWriter.Matches.write {w w' : SkipWriter Token} (h : w.Matches r w')
    {tokens tokens' : List Token} (added : Forall₂ (Token.Matches r) tokens tokens') (ends : Bool) :
    (w.write tokens ends).1.Matches r (w'.write tokens' ends).1 := by
  refine ⟨List.rel_append (List.rel_append h.out ?_) added, rfl⟩
  rw [h.pending]
  split
  · exact .nil
  · exact matches_gap _

omit related in
theorem SkipWriter.Matches.finish {w w' : SkipWriter Token} (h : w.Matches r w') :
    Forall₂ (Token.Matches r) w.finish.1 w'.finish.1 := by
  refine List.rel_append h.out ?_
  rw [h.pending]
  split
  · exact .nil
  · exact matches_gap _

theorem errors_codeInstrument_eq (s : Running) (place : Location) (instrument : Option UInt8) :
    (s.codeInstrument map place instrument).errors
      = (s.codeInstrument map' place instrument).errors := by
  unfold Running.codeInstrument
  cases instrument with
  | none => rfl
  | some number =>
    dsimp only
    by_cases known : number.toNat < map.length
    · have known' : number.toNat < map'.length := related.length_eq ▸ known
      rw [List.getElem?_eq_getElem known, List.getElem?_eq_getElem known']
      split_ifs <;> rfl
    · rw [List.getElem?_eq_none (Nat.le_of_not_lt known),
        List.getElem?_eq_none (related.length_eq ▸ Nat.le_of_not_lt known)]

theorem errors_codeCell_eq (s : Running) (place : Location) (cell : Cell) :
    (s.codeCell map place cell).errors = (s.codeCell map' place cell).errors := by
  simp only [Running.codeCell, Coded.errors_append, errors_codeInstrument_eq related]

theorem writeCells_agree (channel : Channel) (slot : UInt8) (cells : List Cell) (row : Nat)
    (s : Running) {w w' : SkipWriter Token} (h : w.Matches r w') :
    (writeCells map channel slot row s w cells).1.Matches r
        (writeCells map' channel slot row s w' cells).1
      ∧ (writeCells map channel slot row s w cells).2
        = (writeCells map' channel slot row s w' cells).2 := by
  induction cells generalizing row s w w' with
  | nil => exact ⟨h, rfl⟩
  | cons cell cells ih =>
    have tokens := matches_codeCell related s ⟨channel, slot, row⟩ cell
    have errors := errors_codeCell_eq related s ⟨channel, slot, row⟩ cell
    by_cases none : (s.codeCell map ⟨channel, slot, row⟩ cell).tokens = []
    · have none' : (s.codeCell map' ⟨channel, slot, row⟩ cell).tokens = [] := by
        rw [none] at tokens
        exact List.forall₂_nil_left_iff.mp tokens
      rw [writeCells_cons_of_silent none, writeCells_cons_of_silent none', s.after_eq related]
      have silent : (w.silent 1).Matches r (w'.silent 1) := ⟨h.out, congrArg (· + 1) h.pending⟩
      obtain ⟨later, rest⟩ := ih (row + 1) (s.after map' cell) silent
      exact ⟨later, by rw [errors, rest]⟩
    · have some' : (s.codeCell map' ⟨channel, slot, row⟩ cell).tokens ≠ [] := by
        intro none'
        rw [none'] at tokens
        exact none (List.forall₂_nil_right_iff.mp tokens)
      have gap : w.overflow? = w'.overflow? := by
        rw [SkipWriter.overflow?, SkipWriter.overflow?, h.pending]
      have written (v : SkipWriter Token) (ts : List Token) (ends : Bool) :
          v.write ts ends = ((v.write ts ends).1, v.overflow?) := rfl
      rw [writeCells_cons_of_tokens none (written _ _ _),
        writeCells_cons_of_tokens some' (written _ _ _), s.after_eq related]
      obtain ⟨later, rest⟩ := ih (row + 1) (s.after map' cell) (h.write tokens _)
      exact ⟨later, by rw [errors, gap, rest]⟩

theorem matches_encode (track : Track) (c : Channel) (slot : UInt8) :
    Forall₂ (Token.Matches r) (encode track map c slot).value.tokens
      (encode track map' c slot).value.tokens :=
  (writeCells_agree related c slot _ 0 .start ⟨.nil, rfl⟩).1.finish

theorem errors_encode_eq (track : Track) (c : Channel) (slot : UInt8) :
    (encode track map c slot).errors = (encode track map' c slot).errors := by
  have new : SkipWriter.Matches r .new .new := ⟨.nil, rfl⟩
  obtain ⟨written, rows⟩ := writeCells_agree related c slot (track.column c slot) 0 .start new
  simp only [encode, SkipWriter.finish, SkipWriter.overflow?, rows, written.pending]

end TuneBank.Bytecode
