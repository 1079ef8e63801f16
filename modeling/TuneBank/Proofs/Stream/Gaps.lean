import Mathlib.Data.List.Nodup

/-! Gaps between the rows of a pattern. A row without tokens, or with tokens that leave it open, is
accounted for by the skip that comes next; the rows that are owed to that skip are a gap. -/

namespace TuneBank.Bytecode

inductive RowKind where
  | silent
  | begun
  | ended
  deriving DecidableEq

section
variable (kind : Nat → RowKind)

/-- The rows from one up to another that a skip between them and the other stands for: the rows
without tokens, as far up as there are any, and a row left open directly above them. -/
structure Gap (first stop : Nat) : Prop where
  nonempty : first < stop
  silent : ∀ row, first < row → row < stop → kind row = .silent
  start : kind first = .begun
    ∨ kind first = .silent ∧ ∀ above, above + 1 = first → kind above = .ended

/-- A gap of some rows that is closed, by a row with tokens or by the end, and that a skip cannot
hold. -/
structure LongGap (rows first stop : Nat) : Prop extends Gap kind first stop where
  closed : stop < rows ∧ kind stop ≠ .silent ∨ stop = rows
  long : 128 ≤ stop - first

/-- The rows above one that no token accounts for yet. -/
def owed : Nat → Nat
  | 0 => 0
  | row + 1 =>
    match kind row with
    | .silent => owed row + 1
    | .begun => 1
    | .ended => 0

theorem owed_le (stop : Nat) : owed kind stop ≤ stop := by
  induction stop with
  | zero => exact Nat.le_refl 0
  | succ row ih =>
    rw [owed]
    split <;> omega

variable {kind} {first stop : Nat}

theorem Gap.owed_eq (h : Gap kind first stop) : owed kind stop = stop - first := by
  have opened : owed kind (first + 1) = 1 := by
    rcases h.start with begun | ⟨silent, fresh⟩
    · rw [owed, begun]
    · cases first with
      | zero => rw [owed, silent, owed]
      | succ above => rw [owed, silent, owed, fresh above rfl]
  have grown (n : Nat) (inside : first + 1 + n ≤ stop) : owed kind (first + 1 + n) = n + 1 := by
    induction n with
    | zero => exact opened
    | succ n ih =>
      rw [← Nat.add_assoc, owed, h.silent (first + 1 + n) (by omega) (by omega), ih (by omega)]
  have total := grown (stop - (first + 1)) (by have := h.nonempty; omega)
  have bound := h.nonempty
  rw [show first + 1 + (stop - (first + 1)) = stop by omega] at total
  omega

theorem gap_of_owed (some : 0 < owed kind stop) : Gap kind (stop - owed kind stop) stop := by
  induction stop with
  | zero => exact absurd some (Nat.lt_irrefl 0)
  | succ row ih =>
    cases here : kind row with
    | ended => simp [owed, here] at some
    | begun =>
      rw [owed, here, Nat.add_sub_cancel]
      exact ⟨Nat.lt_succ_self row, fun i above below => by omega, .inl here⟩
    | silent =>
      rw [owed, here, Nat.add_sub_add_right]
      by_cases none : owed kind row = 0
      · rw [none, Nat.sub_zero]
        refine ⟨Nat.lt_succ_self row, fun i above below => by omega, .inr ⟨here, ?_⟩⟩
        rintro above rfl
        cases before : kind above with
        | ended => rfl
        | begun => simp [owed, before] at none
        | silent => simp [owed, before] at none
      · have upper := ih (Nat.pos_of_ne_zero none)
        refine ⟨Nat.lt_succ_of_lt upper.nonempty, fun i above below => ?_, upper.start⟩
        rcases Nat.lt_succ_iff_lt_or_eq.mp below with higher | rfl
        · exact upper.silent i above higher
        · exact here

theorem longGap_iff {rows : Nat} :
    LongGap kind rows first stop
      ↔ (stop < rows ∧ kind stop ≠ .silent ∨ stop = rows) ∧ 128 ≤ owed kind stop
        ∧ first = stop - owed kind stop := by
  constructor
  · intro h
    have size := h.owed_eq
    have bound := h.nonempty
    exact ⟨h.closed, size ▸ h.long, by omega⟩
  · rintro ⟨closed, long, rfl⟩
    have bound := owed_le kind stop
    exact ⟨gap_of_owed (by omega), closed, by omega⟩

end

section
variable (kind : Nat → RowKind) (rows : Nat)

/-- The gap that a row closes, if a skip cannot hold it. -/
def longGap? (stop : Nat) : Option (Nat × Nat) :=
  if (stop < rows ∧ kind stop ≠ .silent ∨ stop = rows) ∧ 128 ≤ owed kind stop then
    some (stop - owed kind stop, stop)
  else none

/-- The gaps of some rows that a skip cannot hold, from the first row on. -/
def longGaps : List (Nat × Nat) := (List.range (rows + 1)).filterMap (longGap? kind rows)

variable {kind rows} {first stop : Nat}

theorem longGap?_eq_some_iff {at' : Nat} :
    longGap? kind rows at' = some (first, stop) ↔ at' = stop ∧ LongGap kind rows first stop := by
  rw [longGap?, longGap_iff]
  split_ifs with long
  · constructor
    · intro h
      obtain ⟨rfl, rfl⟩ := Prod.mk.inj (Option.some.inj h)
      exact ⟨rfl, long.1, long.2, rfl⟩
    · rintro ⟨rfl, -, -, rfl⟩
      rfl
  · constructor
    · intro h
      exact nomatch h
    · rintro ⟨rfl, closed, size, -⟩
      exact absurd ⟨closed, size⟩ long

theorem mem_longGaps_iff : (first, stop) ∈ longGaps kind rows ↔ LongGap kind rows first stop := by
  simp only [longGaps, List.mem_filterMap, longGap?_eq_some_iff, List.mem_range]
  constructor
  · rintro ⟨_, -, rfl, gap⟩
    exact gap
  · intro gap
    refine ⟨stop, ?_, rfl, gap⟩
    rcases gap.closed with ⟨inside, -⟩ | rfl <;> omega

theorem nodup_longGaps : (longGaps kind rows).Nodup := by
  refine List.Nodup.filterMap (fun i j gap here there => ?_) List.nodup_range
  exact (longGap?_eq_some_iff.mp here).1.trans (longGap?_eq_some_iff.mp there).1.symm

end

end TuneBank.Bytecode
