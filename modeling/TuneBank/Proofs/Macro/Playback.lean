import TuneBank.Proofs.Export.Invariant

/-! A packed macro as the driver walks it. Its ticks come in turn, and past the last one the driver
goes round between the loop point and the end for as long as a note sounds, so the walk through any
well formed macro is known for every step. -/

namespace TuneBank.Macro

/-! The driver -/

/-- The index that the driver goes on with where it has come to one: a marker leads to the index
that stands after it. -/
def settle? (data : List Int) (index : Nat) : Option Nat :=
  data[index]?.bind fun value =>
    if value = loopMarker.toInt then data[index + 1]?.map Int.toNat else some index

def walk? (data : List Int) : Nat → Option Nat
  | 0 => settle? data 0
  | step + 1 => (walk? data step).bind fun index => settle? data (index + 1)

/-- The tick that is played at a step. A marker is none. -/
def heard? (data : List Int) (step : Nat) : Option Int :=
  ((walk? data step).bind fun index => data[index]?).filter (· ≠ loopMarker.toInt)

/-- The place after some steps on a track of some length that goes on at a place within it. -/
def lasso (length start step : Nat) : Nat :=
  if step < length then step else start + (step - length) % (length - start)

theorem lasso_lt {length start : Nat} (inside : start < length) (step : Nat) :
    lasso length start step < length := by
  unfold lasso
  split_ifs with early
  · exact early
  · have := Nat.mod_lt (step - length) (Nat.sub_pos_of_lt inside)
    omega

theorem lasso_succ {length start : Nat} (inside : start < length) (step : Nat) :
    lasso length start (step + 1)
      = if lasso length start step + 1 < length then lasso length start step + 1 else start := by
  unfold lasso
  rcases Nat.lt_trichotomy (step + 1) length with early | rfl | late
  · have now : step < length := Nat.lt_of_succ_lt early
    rw [if_pos early, if_pos now, if_pos early]
  · rw [if_neg (Nat.lt_irrefl _), if_pos (Nat.lt_succ_self step), if_neg (Nat.lt_irrefl _),
      Nat.sub_self, Nat.zero_mod, Nat.add_zero]
  · -- past the end both steps are on the loop, whose places are counted from its start
    have around : 0 < length - start := Nat.sub_pos_of_lt inside
    have past : ¬ step < length := by omega
    have later : ¬ step + 1 < length := by omega
    have next : step + 1 - length = step - length + 1 := by omega
    have place := Nat.mod_lt (step - length) around
    rw [if_neg past, if_neg later, next, ← Nat.mod_add_mod]
    by_cases more : (step - length) % (length - start) + 1 < length - start
    · rw [Nat.mod_eq_of_lt more, if_pos (by omega), Nat.add_assoc]
    · have full : (step - length) % (length - start) + 1 = length - start := by omega
      rw [full, Nat.mod_self, if_neg (by omega), Nat.add_zero]

theorem getElem?_packed {m : Macro} {index : Nat} (inside : index < m.ticks.length) :
    m.packed[index]? = some m.ticks[index].toInt := by
  rw [packed, List.getElem?_append_left (by simpa using inside), List.getElem?_map,
    List.getElem?_eq_getElem inside, Option.map_some]

theorem settle?_end (m : Macro) : settle? m.packed m.ticks.length = some m.loopPoint.toNat := by
  simp [settle?, packed]

section
variable {m : Macro} (h : m.WellFormed)
include h

theorem WellFormed.toInt_ne {index : Nat} (inside : index < m.ticks.length) :
    m.ticks[index].toInt ≠ loopMarker.toInt := fun same =>
  h.noMarker (Int8.toInt_inj.mp same ▸ List.getElem_mem inside)

theorem WellFormed.settle?_tick {index : Nat} (inside : index < m.ticks.length) :
    settle? m.packed index = some index := by
  rw [settle?, getElem?_packed inside, Option.bind_some, if_neg (h.toInt_ne inside)]

theorem WellFormed.walk?_packed (step : Nat) :
    walk? m.packed step = some (lasso m.ticks.length m.loopPoint.toNat step) := by
  have inside := lasso_lt h.looped
  induction step with
  | zero =>
    have first : lasso m.ticks.length m.loopPoint.toNat 0 = 0 := if_pos h.nonempty
    rw [walk?, first]
    exact h.settle?_tick h.nonempty
  | succ step ih =>
    rw [walk?, ih, Option.bind_some, lasso_succ h.looped]
    split_ifs with more
    · exact h.settle?_tick more
    · have last : lasso m.ticks.length m.loopPoint.toNat step + 1 = m.ticks.length := by
        have := inside step
        omega
      rw [last]
      exact settle?_end m

theorem WellFormed.heard?_packed (step : Nat) :
    ∃ tick, m.ticks[lasso m.ticks.length m.loopPoint.toNat step]? = some tick
      ∧ heard? m.packed step = some tick.toInt := by
  have inside := lasso_lt h.looped step
  refine ⟨_, List.getElem?_eq_getElem inside, ?_⟩
  rw [heard?, h.walk?_packed, Option.bind_some, getElem?_packed inside, Option.filter_some,
    if_pos (decide_eq_true (h.toInt_ne inside))]

end

/-! What an author means -/

/-- The tick that an author means for a step by values and a loop point. The first 255 values come
in turn, and then those from the loop point on, over and over. If no loop point is among them, the
last value is held, but a pitch comes to rest at zero. -/
def authored? (kind : MacroKind) (values : List Int8) (loopPoint : Option UInt8) (step : Nat) :
    Option Int8 :=
  let kept := values.take 255
  if kept.length = 0 then some 0
  else if step < kept.length then kept[step]?
  else match loopPoint.filter (·.toNat < kept.length) with
    | some point =>
      kept[point.toNat + (step - kept.length) % (kept.length - point.toNat)]?
    | none => if kind = .pitch then some 0 else kept[kept.length - 1]?

theorem lasso_held {length : Nat} (nonempty : 0 < length) (step : Nat) :
    lasso length (length - 1) step = min step (length - 1) := by
  have single : length - (length - 1) = 1 := by omega
  rw [lasso, single, Nat.mod_one, Nat.add_zero]
  split_ifs
  · omega
  · omega

theorem getElem?_held {ticks : List Int8} (nonempty : 0 < ticks.length)
    (bounded : ticks.length ≤ 256) (step : Nat) :
    ticks[lasso ticks.length (UInt8.ofNat (ticks.length - 1)).toNat step]?
      = ticks[min step (ticks.length - 1)]? := by
  rw [UInt8.toNat_ofNat_of_lt' (by change ticks.length - 1 < 256; omega), lasso_held nonempty]

theorem authored?_eq (kind : MacroKind) (values : List Int8) (loopPoint : Option UInt8)
    (step : Nat) :
    let m := ofAuthored kind values loopPoint
    authored? kind values loopPoint step
      = m.ticks[lasso m.ticks.length m.loopPoint.toNat step]? := by
  have short : (values.take 255).length ≤ 255 := List.length_take_le 255 values
  by_cases empty : values = []
  · subst empty
    have zero : [(0 : Int8)][min step 0]? = some 0 := by rw [Nat.min_zero, List.getElem?_cons_zero]
    exact ((getElem?_held (by decide) (by decide) step).trans zero).symm
  · have nonempty : 0 < (values.take 255).length := by
      have := List.length_pos_iff.mpr empty
      rw [List.length_take]
      omega
    rw [ofAuthored, if_neg (by simpa using empty), authored?]
    dsimp only [maxLength]
    generalize values.take 255 = kept at short nonempty ⊢
    rw [if_neg (Nat.ne_of_gt nonempty)]
    cases loopPoint.filter (·.toNat < kept.length) with
    | some point =>
      dsimp only
      rw [lasso]
      split_ifs
      · rfl
      · rfl
    | none =>
      dsimp only
      by_cases pitch : kind = .pitch
      · have length : (kept ++ [0]).length = kept.length + 1 := List.length_append
        rw [if_pos pitch, if_pos pitch, getElem?_held (by omega) (by omega), length,
          Nat.add_sub_cancel]
        split_ifs with early
        · rw [Nat.min_eq_left (Nat.le_of_lt early), List.getElem?_append_left early]
        · rw [Nat.min_eq_right (Nat.le_of_not_lt early), List.getElem?_concat_length]
      · rw [if_neg pitch, if_neg pitch, getElem?_held nonempty (by omega)]
        split_ifs with early
        · rw [Nat.min_eq_left (by omega)]
        · rw [Nat.min_eq_right (by omega)]

/-- A packed macro plays at every step what its author means. -/
theorem ofAuthored_plays_authored {values : List Int8} (noMarker : loopMarker ∉ values)
    (kind : MacroKind) (loopPoint : Option UInt8) (step : Nat) :
    ∃ tick, authored? kind values loopPoint step = some tick
      ∧ heard? (ofAuthored kind values loopPoint).packed step = some tick.toInt := by
  rw [authored?_eq]
  exact (wellFormed_ofAuthored noMarker kind loopPoint).heard?_packed step

theorem longPitch_rests :
    let driven := heard? (ofAuthored .pitch (List.replicate 300 1) (some 255)).packed
    driven 254 = some 1 ∧ driven 255 = some 0 ∧ driven 1000000 = some 0 := by
  have unmarked : loopMarker ∉ List.replicate 300 (1 : Int8) := by
    rw [List.mem_replicate]
    decide
  have plays (step : Nat) (tick : Int8)
      (meant : authored? .pitch (List.replicate 300 1) (some 255) step = some tick) :
      heard? (ofAuthored .pitch (List.replicate 300 1) (some 255)).packed step
        = some tick.toInt := by
    obtain ⟨played, same, heard⟩ := ofAuthored_plays_authored unmarked .pitch (some 255) step
    rwa [Option.some.inj (same.symm.trans meant)] at heard
  exact ⟨plays 254 1 (by decide +kernel), plays 255 0 (by decide +kernel),
    plays 1000000 0 (by decide +kernel)⟩

end TuneBank.Macro
