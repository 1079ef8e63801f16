import Mathlib.Data.List.Chain
import TuneBank.DriverTables
import TuneBank.Proofs.Stream.Playback

/-! The grammar of pattern streams. The driver has 96 pitches, the last of which has the byte of
volume 0, so bytes determine where tokens end but not quite which tokens they are; the encoder
keeps below that pitch. It writes a skip only before the tokens of a row or at the end, so no two
skips meet. -/

namespace TuneBank.Bytecode

namespace Token

/-- The token is one that the driver knows: a skip, a command, or a pitch of its tuning table. -/
def Assigned : Token → Prop
  | skip rows => rows ≤ Code.skipMax
  | pitch byte => Code.halt < byte ∧ byte.toNat - (Code.halt.toNat + 1) < DriverTables.tuningLength
  | volume level => level.toNat ≤ 15
  | _ => True

/-- The last pitch can be read as volume 0, and nothing else in two ways. -/
theorem Assigned.exists_wellFormed {t : Token} (h : t.Assigned) :
    ∃ u : Token, u.WellFormed ∧ u.bytes = t.bytes := by
  cases t with
  | pitch byte =>
    by_cases below : byte < Code.volume
    · exact ⟨.pitch byte, ⟨h.1, below⟩, rfl⟩
    · have high : 224 ≤ byte.toNat := Nat.le_of_not_lt below
      have low : byte.toNat - 129 < 96 := h.2
      have last : byte = Code.volume := UInt8.toNat_inj.mp (by change byte.toNat = 224; omega)
      exact ⟨.volume 0, Nat.zero_le _, by rw [last]; rfl⟩
  | skip rows => exact ⟨.skip rows, h, rfl⟩
  | volume level => exact ⟨.volume level, h, rfl⟩
  | halt => exact ⟨.halt, trivial, rfl⟩
  | instrument number => exact ⟨.instrument number, trivial, rfl⟩
  | loop frame => exact ⟨.loop frame, trivial, rfl⟩
  | patternBreak => exact ⟨.patternBreak, trivial, rfl⟩
  | speed ticks => exact ⟨.speed ticks, trivial, rfl⟩

theorem exists_wellFormed_map_bytes {us : List Token} (assigned : ∀ u ∈ us, u.Assigned) :
    ∃ vs : List Token, (∀ v ∈ vs, v.WellFormed) ∧ vs.map bytes = us.map bytes := by
  induction us with
  | nil => exact ⟨[], fun _ member => absurd member List.not_mem_nil, rfl⟩
  | cons u us ih =>
    obtain ⟨first, rest⟩ := List.forall_mem_cons.mp assigned
    obtain ⟨v, proper, same⟩ := first.exists_wellFormed
    obtain ⟨vs, all, later⟩ := ih rest
    exact ⟨v :: vs, List.forall_mem_cons.mpr ⟨proper, all⟩, by rw [List.map_cons, same, later]; rfl⟩

theorem Writes.map_bytes_unique {ts us : List Token} {stream : List UInt8} (h : Writes ts stream)
    (assigned : ∀ u ∈ us, u.Assigned) (same : us.flatMap Token.bytes = stream) :
    us.map Token.bytes = ts.map Token.bytes := by
  obtain ⟨vs, proper, pieces⟩ := exists_wellFormed_map_bytes assigned
  have writes : Writes vs stream :=
    ⟨proper, by rw [← same, List.flatMap_def, List.flatMap_def, pieces]⟩
  rw [← pieces, writes.unique h]

def isSkip : Token → Bool
  | skip _ => true
  | _ => false

/-- No two skips stand side by side. -/
def SkipsApart (ts : List Token) : Prop :=
  ts.IsChain fun t u => ¬ (t.isSkip ∧ u.isSkip)

theorem skipsApart_of_solid {ts : List Token} (solid : ∀ t ∈ ts, t.isSkip = false) :
    SkipsApart ts :=
  (List.pairwise_of_forall_mem_list fun t member _ _ both => by
    simp [solid t member] at both).isChain

theorem SkipsApart.append {ts us : List Token} (first : SkipsApart ts) (rest : SkipsApart us)
    (ended : ∀ t ∈ ts.getLast?, t.isSkip = false) : SkipsApart (ts ++ us) :=
  List.IsChain.append first rest fun t last _ _ both => by simp [ended t last] at both

end Token

open Token

structure SkipWriter.Settled (w : SkipWriter Token) : Prop where
  apart : SkipsApart w.out
  ended : ∀ t ∈ w.out.getLast?, t.isSkip = false

namespace SkipWriter.Settled

theorem new : (SkipWriter.new : SkipWriter Token).Settled :=
  ⟨.nil, fun _ none => absurd none (Option.not_mem_none _)⟩

variable {w : SkipWriter Token} (h : w.Settled)
include h

theorem write {tokens : List Token} (solid : ∀ t ∈ tokens, t.isSkip = false) (some : tokens ≠ [])
    (ends : Bool) : (w.write tokens ends).1.Settled where
  apart := by
    have due : SkipsApart ((if w.pending = 0 then [] else [gap (w.pending - 1)]) ++ tokens) := by
      split
      · exact skipsApart_of_solid solid
      · refine List.IsChain.append (List.isChain_singleton _) (skipsApart_of_solid solid) ?_
        intro _ _ u first both
        simp [solid u (List.mem_of_mem_head? first)] at both
    change SkipsApart (w.out ++ _ ++ tokens)
    rw [List.append_assoc]
    exact h.apart.append due h.ended
  ended t last := by
    change t ∈ (w.out ++ _ ++ tokens).getLast? at last
    rw [List.getLast?_append_of_ne_nil _ some] at last
    exact solid t (List.mem_of_getLast? last)

theorem finish : SkipsApart w.finish.1 := by
  refine h.apart.append ?_ h.ended
  split
  · exact .nil
  · exact List.isChain_singleton _

end SkipWriter.Settled

theorem isSkip_of_mem_codeCell {s : Running} {map : List UInt8} {place : Location} {cell : Cell}
    {t : Token} (member : t ∈ (s.codeCell map place cell).tokens) : t.isSkip = false := by
  rw [tokens_codeCell, List.mem_append, Option.mem_toList] at member
  rcases member with column | note
  · have command := isCommand_of_mem_columns column
    cases t with
    | skip rows => exact absurd command Bool.false_ne_true
    | _ => rfl
  · cases heard : Sound.ofNote cell.note <;> rw [heard] at note
    · exact nomatch note
    all_goals
      obtain rfl := Option.some.inj note
      rfl

theorem settled_writeCells (map : List UInt8) (c : Channel) (slot : UInt8) (cells : List Cell)
    (row : Nat) (s : Running) {w : SkipWriter Token} (settled : w.Settled) :
    (writeCells map c slot row s w cells).1.Settled := by
  induction cells generalizing row s w with
  | nil => exact settled
  | cons cell cells ih =>
    by_cases none : (s.codeCell map ⟨c, slot, row⟩ cell).tokens = []
    · rw [writeCells_cons_of_silent none]
      exact ih _ _ ⟨settled.apart, settled.ended⟩
    · rw [writeCells_cons_of_tokens none rfl]
      exact ih _ _ (settled.write (fun _ => isSkip_of_mem_codeCell) none _)

theorem skipsApart_encode (t : Track) (map : List UInt8) (c : Channel) (slot : UInt8) :
    SkipsApart (encode t map c slot).value.tokens :=
  (settled_writeCells map c slot _ 0 .start .new).finish

end TuneBank.Bytecode
