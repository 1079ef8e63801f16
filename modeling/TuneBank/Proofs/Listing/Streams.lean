import Mathlib.Data.List.Forall2
import TuneBank.Proofs.Listing.Operands
import TuneBank.Proofs.Stream.Grammar

/-! The streams of a listing, token by token. The listing finds its operands again from the bytes
alone. By `patternOperands_flatMap_bytes` it finds those of the tokens that were written, whatever
values they have, so a name stands for a command and never for an operand. -/

namespace TuneBank.Listing

open Bytecode
open List (Forall₂)

/-- A token as it is meant to be printed: commands by name, and skips, pitches and operands as
numbers. -/
def tokenOperands : Token → List String
  | .skip rows => [hexOperand rows]
  | .halt => ["HALT"]
  | .pitch byte => [hexOperand byte]
  | .volume level => ["VOL" ++ String.ofList [Text.Base.digitChar level.toNat]]
  | .instrument number => ["INST", hexOperand number]
  | .loop frame => ["B_XX", hexOperand frame]
  | .patternBreak => ["D_00"]
  | .speed ticks => ["F_XX", hexOperand ticks]

theorem patternOperands_plain {b : UInt8} (plain : takesOperand b = false) (rest : List UInt8) :
    patternOperands (b :: rest)
      = namedOperand Bytecode.patternNames b :: patternOperands rest := by
  cases rest with
  | nil => simp [patternOperands]
  | cons operand rest => simp [patternOperands, plain]

theorem patternOperands_command {b : UInt8} (takes : takesOperand b = true) (operand : UInt8)
    (rest : List UInt8) :
    patternOperands (b :: operand :: rest)
      = namedOperand Bytecode.patternNames b :: hexOperand operand :: patternOperands rest := by
  rw [patternOperands, if_pos takes]

theorem takesOperand_of_lt {b : UInt8} (low : b < Code.instrument) : takesOperand b = false := by
  have other {code : UInt8} (high : Code.instrument ≤ code) : b ≠ code :=
    UInt8.ne_of_lt (UInt8.lt_of_lt_of_le low high)
  simp [takesOperand, other (show Code.instrument ≤ Code.instrument by decide),
    other (show Code.instrument ≤ Code.loop by decide),
    other (show Code.instrument ≤ Code.speed by decide)]

theorem namedOperand_of_lt_volume {b : UInt8} (low : b < Code.volume) (sounds : b ≠ Code.halt) :
    namedOperand Bytecode.patternNames b = hexOperand b := by
  have table : ∀ p ∈ Bytecode.patternNames, p.2 = Code.halt ∨ Code.volume ≤ p.2 := by decide +kernel
  have unnamed : Bytecode.patternNames.find? (·.2 = b) = none := by
    refine List.find?_eq_none.mpr fun p member => ?_
    rintro same
    obtain rfl : p.2 = b := by simpa using same
    rcases table p member with cut | high
    · exact sounds cut
    · exact absurd low (UInt8.not_lt.mpr high)
  simp [namedOperand, Bytecode.nameIn?, unnamed]

theorem namedOperand_volume {level : UInt8} (small : level.toNat ≤ 15) :
    namedOperand Bytecode.patternNames (Code.volume + level)
      = "VOL" ++ String.ofList [Text.Base.digitChar level.toNat] := by
  have all : ∀ i : Fin 16, namedOperand Bytecode.patternNames (Code.volume + UInt8.ofNat i)
      = "VOL" ++ String.ofList [Text.Base.digitChar i] := by decide +kernel
  simpa using all ⟨level.toNat, Nat.lt_succ_of_le small⟩

theorem patternOperands_bytes_append {t : Token} (h : t.WellFormed) (rest : List UInt8) :
    patternOperands (t.bytes ++ rest) = tokenOperands t ++ patternOperands rest := by
  have unnamed {b : UInt8} (low : b < Code.volume) (sounds : b ≠ Code.halt) :
      patternOperands (b :: rest) = hexOperand b :: patternOperands rest := by
    rw [patternOperands_plain (takesOperand_of_lt (UInt8.lt_trans low (by decide))),
      namedOperand_of_lt_volume low sounds]
  have command {b operand : UInt8} {name : String} (takes : takesOperand b = true)
      (named : namedOperand Bytecode.patternNames b = name) :
      patternOperands (b :: operand :: rest)
        = name :: hexOperand operand :: patternOperands rest := by
    rw [patternOperands_command takes, named]
  have alone {b : UInt8} {name : String} (plain : takesOperand b = false)
      (named : namedOperand Bytecode.patternNames b = name) :
      patternOperands (b :: rest) = name :: patternOperands rest := by
    rw [patternOperands_plain plain, named]
  cases t with
  | skip rows =>
    have low : rows < Code.halt := UInt8.lt_of_le_of_lt h (by decide)
    exact unnamed (UInt8.lt_trans low (by decide)) (UInt8.ne_of_lt low)
  | pitch byte => exact unnamed h.2 (UInt8.ne_of_lt h.1).symm
  | volume level =>
    have low : Code.volume + level < Code.instrument := by
      have value := Token.toNat_volume_add h
      have small : level.toNat ≤ 15 := h
      change (Code.volume + level).toNat < 240
      omega
    exact alone (takesOperand_of_lt low) (namedOperand_volume h)
  | halt => exact alone (by decide) (by decide +kernel)
  | patternBreak => exact alone (by decide) (by decide +kernel)
  | instrument number => exact command (by decide) (by decide +kernel)
  | loop frame => exact command (by decide) (by decide +kernel)
  | speed ticks => exact command (by decide) (by decide +kernel)

theorem patternOperands_flatMap_bytes {ts : List Token} (h : ∀ t ∈ ts, t.WellFormed) :
    patternOperands (ts.flatMap Token.bytes) = ts.flatMap tokenOperands := by
  induction ts with
  | nil => rfl
  | cons t ts ih =>
    obtain ⟨first, rest⟩ := List.forall_mem_cons.mp h
    rw [List.flatMap_cons, patternOperands_bytes_append first, ih rest, List.flatMap_cons]

theorem number?_patternOperands (set : PackedSet) (bytes : List UInt8) :
    (patternOperands bytes).map (number? (definitions set))
      = bytes.map fun b => some (b.toNat : Int) := by
  have denoted := denotes_patternOperands
    (fun p member => denotes_names set p (List.mem_append_left _ member)) bytes
  rw [List.forall₂_map_right_iff] at denoted
  refine List.forall₂_eq_eq_eq ▸ ?_
  rw [List.forall₂_map_left_iff, List.forall₂_map_right_iff]
  exact denoted.imp fun _ _ => number?_of_denotes

/-- An encoded stream is a sequence of tokens in one way only, no two skips meet in it, and it is
printed token by token so that its bytes can be read back. -/
theorem encode_printed_by_token {track : Track} (volumes : track.VolumesInRange)
    (map : List UInt8) (c : Channel) (slot : UInt8) :
    let stream := (encode track map c slot).value.bytes
    ∃ ts : List Token, (∀ us, Token.Writes us stream ↔ us = ts)
      ∧ Token.split? stream = some ts
      ∧ (∀ us : List Token, (∀ u ∈ us, u.Assigned) → us.flatMap Token.bytes = stream →
        us.map Token.bytes = ts.map Token.bytes)
      ∧ Token.SkipsApart ts
      ∧ patternOperands stream = ts.flatMap tokenOperands
      ∧ ∀ set, (patternOperands stream).map (number? (definitions set))
          = stream.map fun b => some (b.toNat : Int) := by
  intro stream
  have written := writes_encode volumes map c slot
  refine ⟨(encode track map c slot).value.tokens, fun us => ⟨fun other => ?_, ?_⟩, written.split?,
    fun us assigned same => written.map_bytes_unique assigned same,
    skipsApart_encode track map c slot, patternOperands_flatMap_bytes written.proper,
    fun set => number?_patternOperands set stream⟩
  · exact other.unique written
  · rintro rfl
    exact written

theorem mixedTrack_printed_by_token :
    mixedTrack.VolumesInRange
      ∧ ∃ ts : List Token,
        Token.Writes ts (encode mixedTrack [0xE0, 5] .pulse1 0).value.bytes
          ∧ ts.length = 13
          ∧ ts.flatMap tokenOperands = ["F_XX", "$03", "B_XX", "$80", "VOLF", "INST", "$05", "$B1",
            "$00", "D_00", "$00", "VOL7", "$01", "INST", "$E0", "HALT", "$02"] := by
  have volumes : mixedTrack.VolumesInRange := by decide
  obtain ⟨ts, only, cut, -, -, printed, -⟩ := encode_printed_by_token volumes [0xE0, 5] .pulse1 0
  have tokens : ts = [.speed 3, .loop 0x80, .volume 15, .instrument 5, .pitch 0xB1, .skip 0,
      .patternBreak, .skip 0, .volume 7, .skip 1, .instrument 0xE0, .halt, .skip 2] :=
    Option.some.inj (cut.symm.trans (by decide))
  refine ⟨volumes, ts, (only ts).mpr rfl, by rw [tokens]; rfl, ?_⟩
  rw [← printed]
  decide +kernel

end TuneBank.Listing
