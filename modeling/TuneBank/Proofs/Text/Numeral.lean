import Mathlib.Tactic.SplitIfs
import TuneBank.Text.Numeral

/-! Numerals that are written are read back, whatever zeros stand before them. Every digit that is
read is below the base, so no reader has to check its size again. -/

namespace TuneBank.Text

namespace Base
variable (b : Base)

theorem digit?_bounds {c : Char} {d : Nat} (h : b.digit? c = some d) :
    c.toNat < 128 ∧ d < b.radix := by
  have below {low high : Char} (within : low ≤ c ∧ c ≤ high) : c.toNat ≤ high.toNat := within.2
  cases b with
  | decimal =>
    unfold digit? at h
    split_ifs at h with digit
    have bound : c.toNat ≤ 57 := below digit
    obtain rfl : c.toNat - 48 = d := Option.some.inj h
    change c.toNat < 128 ∧ c.toNat - 48 < 10
    omega
  | hex =>
    unfold digit? at h
    split_ifs at h with digit small capital
    · have bound : c.toNat ≤ 57 := below digit
      obtain rfl : c.toNat - 48 = d := Option.some.inj h
      change c.toNat < 128 ∧ c.toNat - 48 < 16
      omega
    · have bound : c.toNat ≤ 102 := below small
      obtain rfl : c.toNat - 97 + 10 = d := Option.some.inj h
      change c.toNat < 128 ∧ c.toNat - 97 + 10 < 16
      omega
    · have bound : c.toNat ≤ 70 := below capital
      obtain rfl : c.toNat - 65 + 10 = d := Option.some.inj h
      change c.toNat < 128 ∧ c.toNat - 65 + 10 < 16
      omega

theorem digit?_lt {c : Char} {d : Nat} (h : b.digit? c = some d) : d < b.radix :=
  (b.digit?_bounds h).2

variable {b} in
theorem toNat_lt_of_digit? {c : Char} {d : Nat} (h : b.digit? c = some d) : c.toNat < 128 :=
  (b.digit?_bounds h).1

theorem digit?_digitChar {d : Nat} (small : d < b.radix) : b.digit? (digitChar d) = some d := by
  have each : (∀ d < 10, decimal.digit? (digitChar d) = some d)
      ∧ ∀ d < 16, hex.digit? (digitChar d) = some d := by decide
  cases b with
  | decimal => exact each.1 d small
  | hex => exact each.2 d small

theorem readFrom?_append (n : Nat) (first second : List Char) :
    b.readFrom? n (first ++ second)
      = (b.readFrom? n first).bind fun m => b.readFrom? m second := by
  induction first generalizing n with
  | nil => rfl
  | cons c first ih =>
    rw [List.cons_append, readFrom?, readFrom?]
    cases b.digit? c with
    | none => rfl
    | some d => exact ih _

theorem readFrom?_write (n : Nat) : b.readFrom? 0 (b.write n) = some n := by
  have last (value d : Nat) (small : d < b.radix) :
      b.readFrom? value [digitChar d] = some (b.radix * value + d) := by
    rw [readFrom?, b.digit?_digitChar small]
    rfl
  induction n using Nat.strongRecOn with
  | ind n ih =>
    rw [write]
    split_ifs with small
    · rw [last 0 n small, Nat.mul_zero, Nat.zero_add]
    · have shorter : n / b.radix < n :=
        Nat.div_lt_self (by have := b.one_lt_radix; omega) b.one_lt_radix
      have below : n % b.radix < b.radix := Nat.mod_lt _ (by have := b.one_lt_radix; omega)
      rw [readFrom?_append, ih _ shorter, Option.bind_some, last _ _ below, Nat.div_add_mod]

theorem readFrom?_zeros (count : Nat) (cs : List Char) :
    b.readFrom? 0 (List.replicate count '0' ++ cs) = b.readFrom? 0 cs := by
  have zero : b.digit? '0' = some 0 := by cases b <;> decide
  induction count with
  | zero => rfl
  | succ count ih =>
    rw [List.replicate_succ, List.cons_append, readFrom?, zero]
    exact ih

theorem digitChar_of_mem_write {n : Nat} {c : Char} (h : c ∈ b.write n) :
    ∃ d < 16, c = digitChar d := by
  have most : b.radix ≤ 16 := by cases b <;> decide
  induction n using Nat.strongRecOn with
  | ind n ih =>
    rw [write] at h
    split_ifs at h with small
    · exact ⟨n, Nat.lt_of_lt_of_le small most, List.mem_singleton.mp h⟩
    · rcases List.mem_append.mp h with first | last
      · exact ih _ (Nat.div_lt_self (by have := b.one_lt_radix; omega) b.one_lt_radix) first
      · have below : n % b.radix < b.radix := Nat.mod_lt _ (by have := b.one_lt_radix; omega)
        exact ⟨_, Nat.lt_of_lt_of_le below most, List.mem_singleton.mp last⟩

theorem write_ne_nil (n : Nat) : b.write n ≠ [] := by
  rw [write]
  split_ifs <;> simp

/-- The text is the number in this base, perhaps after zeros. -/
def Spells (n : Nat) (s : String) : Prop :=
  ∃ zeros, s.toList = List.replicate zeros '0' ++ b.write n

theorem spells_decimal (n : Nat) : decimal.Spells n (Text.decimal n) :=
  ⟨0, String.toList_ofList⟩

theorem spells_hex (width n : Nat) : hex.Spells n (Text.hex width n) :=
  ⟨width - (hex.write n).length, String.toList_ofList⟩

variable {b} {n : Nat} {s : String}

theorem Spells.digitChar_of_mem (h : b.Spells n s) {c : Char} (member : c ∈ s.toList) :
    ∃ d < 16, c = digitChar d := by
  obtain ⟨zeros, chars⟩ := h
  rw [chars, List.mem_append] at member
  rcases member with zero | digit
  · exact ⟨0, by decide, (List.mem_replicate.mp zero).2⟩
  · exact b.digitChar_of_mem_write digit

theorem Spells.ne_nil (h : b.Spells n s) : s.toList ≠ [] := by
  obtain ⟨zeros, chars⟩ := h
  rw [chars]
  exact List.append_ne_nil_of_right_ne_nil _ (b.write_ne_nil n)

theorem Spells.exists_cons (h : b.Spells n s) :
    ∃ c cs, s.toList = c :: cs ∧ c ≠ '+' ∧ c ≠ '-' := by
  obtain ⟨c, cs, chars⟩ := List.exists_cons_of_ne_nil h.ne_nil
  obtain ⟨d, small, rfl⟩ := h.digitChar_of_mem (chars ▸ List.mem_cons_self)
  have unsigned : ∀ d < 16, digitChar d ≠ '+' ∧ digitChar d ≠ '-' := by decide
  exact ⟨_, cs, chars, unsigned d small⟩

theorem Spells.digits? (h : b.Spells n s) : b.digits? s.toList = some n := by
  obtain ⟨c, cs, chars, -⟩ := h.exists_cons
  obtain ⟨zeros, written⟩ := h
  rw [chars, Base.digits?, ← chars, written, readFrom?_zeros, readFrom?_write]

theorem Spells.read? (h : b.Spells n s) : b.read? s.toList = some n := by
  obtain ⟨c, cs, chars, plus, -⟩ := h.exists_cons
  have digits := h.digits?
  rw [chars] at digits ⊢
  rw [Base.read?.eq_def]
  split
  · rename_i same
    exact absurd (List.cons.inj same).1 plus
  · exact digits

end Base

open Base

variable {b : Base} {n : Nat} {s : String}

theorem natural?_of_spells {bound : Nat} (h : b.Spells n s) (small : n < bound) :
    natural? b bound s = some n := by
  rw [natural?, h.read?, Option.filter_some, if_pos (decide_eq_true small)]

theorem byte?_of_spells {byte : UInt8} (h : b.Spells byte.toNat s) : byte? b s = some byte := by
  rw [byte?, natural?_of_spells h byte.toNat_lt, Option.map_some, UInt8.ofNat_toNat]

inductive SpellsInt : Int → String → Prop
  | ofNat {n : Nat} {s : String} (h : Base.decimal.Spells n s) : SpellsInt n s
  | neg {n : Nat} {s : String} (h : Base.decimal.Spells n s) : SpellsInt (-n) ("-" ++ s)

theorem spellsInt_signed (i : Int) : SpellsInt i (signed i) := by
  cases i with
  | ofNat n => exact .ofNat (Base.spells_decimal n)
  | negSucc n => exact .neg (Base.spells_decimal (n + 1))

theorem integer?_of_spellsInt {bits : Nat} {i : Int} (h : SpellsInt i s)
    (low : -(Nat.pow 2 (bits - 1) : Int) ≤ i) (high : i < Nat.pow 2 (bits - 1)) :
    integer? bits s = some i := by
  have within (value : Option Int) (read : value = some i) : (value.filter fun j =>
      -((Nat.pow 2 (bits - 1) : Nat) : Int) ≤ j ∧ j < (Nat.pow 2 (bits - 1) : Nat)) = some i := by
    rw [read, Option.filter_some, if_pos (decide_eq_true ⟨low, high⟩)]
  unfold integer?
  refine within _ ?_
  cases h with
  | ofNat spelled =>
    obtain ⟨c, cs, chars, -, minus⟩ := spelled.exists_cons
    have read := spelled.read?
    rw [chars] at read ⊢
    split
    · rename_i same
      exact absurd (List.cons.inj same).1 minus
    · rw [read]
      rfl
  | neg spelled =>
    rename_i n t
    have chars : ("-" ++ t).toList = '-' :: t.toList := by simp
    rw [chars]
    simp only [spelled.digits?]
    rfl

theorem spells_twoDigits (n : Nat) : Base.decimal.Spells n (twoDigits n) :=
  ⟨2 - (Base.decimal.write n).length, String.toList_ofList⟩

theorem twoDigits_inj {a b : Nat} (h : twoDigits a = twoDigits b) : a = b :=
  Option.some.inj ((spells_twoDigits a).read?.symm.trans (h ▸ (spells_twoDigits b).read?))

end TuneBank.Text
