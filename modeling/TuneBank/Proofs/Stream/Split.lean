import TuneBank.Bytecode.Token

/-! Pattern streams cut back into tokens. Three tokens take an operand of any value, so a byte can
only be read together with what stands before it. By `split?_flatMap_bytes` the bytes of well formed
tokens determine the tokens. -/

namespace TuneBank.Bytecode.Token

def WellFormed : Token → Prop
  | skip rows => rows ≤ Code.skipMax
  | pitch byte => Code.halt < byte ∧ byte < Code.volume
  | volume level => level.toNat ≤ 15
  | _ => True

inductive Lead where
  | whole (t : Token)
  | operand (token : UInt8 → Token)
  | unassigned

def lead (byte : UInt8) : Lead :=
  if byte ≤ Code.skipMax then .whole (.skip byte)
  else if byte = Code.halt then .whole .halt
  else if byte < Code.volume then .whole (.pitch byte)
  else if byte < Code.instrument then .whole (.volume (byte - Code.volume))
  else if byte = Code.instrument then .operand .instrument
  else if byte = Code.loop then .operand .loop
  else if byte = Code.patternBreak then .whole .patternBreak
  else if byte = Code.speed then .operand .speed
  else .unassigned

/-- The tokens of a stream. There are none if a byte is unassigned or an operand is missing. -/
def split? : List UInt8 → Option (List Token)
  | [] => some []
  | byte :: rest =>
    match lead byte with
    | .whole t => (split? rest).map (t :: ·)
    | .operand token =>
      match rest with
      | [] => none
      | value :: rest => (split? rest).map (token value :: ·)
    | .unassigned => none

theorem split?_whole {byte : UInt8} {t : Token} (h : lead byte = .whole t) (rest : List UInt8) :
    split? (byte :: rest) = (split? rest).map (t :: ·) := by
  rw [split?.eq_def]
  simp only [h]

theorem split?_operand {byte : UInt8} {token : UInt8 → Token} (h : lead byte = .operand token)
    (value : UInt8) (rest : List UInt8) :
    split? (byte :: value :: rest) = (split? rest).map (token value :: ·) := by
  rw [split?.eq_def]
  simp only [h]

theorem lead_skip {rows : UInt8} (h : rows ≤ Code.skipMax) : lead rows = .whole (.skip rows) := by
  rw [lead, if_pos h]

theorem lead_pitch {byte : UInt8} (above : Code.halt < byte) (below : byte < Code.volume) :
    lead byte = .whole (.pitch byte) := by
  have noSkip : ¬ byte ≤ Code.skipMax := by
    have : 128 < byte.toNat := above
    change ¬ byte.toNat ≤ 127
    omega
  have noHalt : byte ≠ Code.halt := by
    rintro rfl
    exact absurd above (by decide)
  rw [lead, if_neg noSkip, if_neg noHalt, if_pos below]

theorem toNat_volume_add {level : UInt8} (small : level.toNat ≤ 15) :
    (Code.volume + level).toNat = 224 + level.toNat := by
  rw [UInt8.toNat_add]
  change (224 + level.toNat) % 256 = _
  exact Nat.mod_eq_of_lt (by omega)

theorem lead_volume {level : UInt8} (small : level.toNat ≤ 15) :
    lead (Code.volume + level) = .whole (.volume level) := by
  have value := toNat_volume_add small
  have noSkip : ¬ Code.volume + level ≤ Code.skipMax := by
    change ¬ (Code.volume + level).toNat ≤ 127
    omega
  have noHalt : Code.volume + level ≠ Code.halt := by
    intro same
    have : (Code.volume + level).toNat = 128 := congrArg UInt8.toNat same
    omega
  have noPitch : ¬ Code.volume + level < Code.volume := by
    change ¬ (Code.volume + level).toNat < 224
    omega
  have noCommand : Code.volume + level < Code.instrument := by
    change (Code.volume + level).toNat < 240
    omega
  rw [lead, if_neg noSkip, if_neg noHalt, if_neg noPitch, if_pos noCommand,
    UInt8.add_comm, UInt8.add_sub_cancel]

theorem split?_bytes_append {t : Token} (proper : t.WellFormed) (rest : List UInt8) :
    split? (t.bytes ++ rest) = (split? rest).map (t :: ·) := by
  cases t with
  | skip rows => exact split?_whole (lead_skip proper) rest
  | halt => exact split?_whole rfl rest
  | pitch byte => exact split?_whole (lead_pitch proper.1 proper.2) rest
  | volume level => exact split?_whole (lead_volume proper) rest
  | instrument number => exact split?_operand rfl number rest
  | loop frame => exact split?_operand rfl frame rest
  | patternBreak => exact split?_whole rfl rest
  | speed ticks => exact split?_operand rfl ticks rest

theorem split?_flatMap_bytes (ts : List Token) (proper : ∀ t ∈ ts, t.WellFormed) :
    split? (ts.flatMap bytes) = some ts := by
  induction ts with
  | nil => rfl
  | cons t ts ih =>
    rw [List.flatMap_cons, split?_bytes_append (proper t (by simp)),
      ih fun u member => proper u (List.mem_cons_of_mem t member)]
    rfl

structure Writes (ts : List Token) (stream : List UInt8) : Prop where
  proper : ∀ t ∈ ts, t.WellFormed
  bytes : ts.flatMap bytes = stream

theorem Writes.split? {ts : List Token} {stream : List UInt8} (h : Writes ts stream) :
    split? stream = some ts :=
  h.bytes ▸ split?_flatMap_bytes ts h.proper

theorem Writes.unique {ts us : List Token} {stream : List UInt8} (h : Writes ts stream)
    (h' : Writes us stream) : ts = us :=
  Option.some.inj (h.split?.symm.trans h'.split?)

end TuneBank.Bytecode.Token
