import Mathlib.Logic.ExistsUnique
import TuneBank.Track

/-! The cells of a pattern in one list, row by row. A new pattern has five empty cells for each of
its rows, and a pattern is the same thing as a list with five cells for each of its rows: the cell
of a channel stands at five times the row and the column. -/

namespace TuneBank

theorem Channel.index_lt_five (c : Channel) : c.index < 5 := by
  cases c <;> decide

namespace PerChannel
variable {α : Type}

theorem length_toList (t : PerChannel α) : t.toList.length = 5 := rfl

theorem getElem?_toList (t : PerChannel α) (c : Channel) : t.toList[c.index]? = some (t.get c) := by
  cases c <;> rfl

theorem set_toList (t : PerChannel α) (c : Channel) (a : α) :
    t.toList.set c.index a = (t.set c a).toList := by
  cases c <;> rfl

end PerChannel

namespace Pattern

def data (p : Pattern) : List Cell := p.cells.flatMap PerChannel.toList

theorem data_cons (cells : PerChannel Cell) (rows : List (PerChannel Cell)) :
    data ⟨cells :: rows⟩ = cells.toList ++ data ⟨rows⟩ := List.flatMap_cons

theorem length_data (p : Pattern) : p.data.length = p.rows * 5 := by
  simp [data, List.length_flatMap, PerChannel.length_toList, rows, List.map_const']

theorem data_empty (rows : Nat) : (empty rows).data = List.replicate (rows * 5) .empty := by
  have row : emptyRow.toList = List.replicate 5 Cell.empty := rfl
  rw [empty, data, List.flatMap_replicate, row, List.flatten_replicate_replicate]

theorem getElem?_data (p : Pattern) (row : Nat) (c : Channel) :
    p.data[row * 5 + c.index]? = p.cells[row]?.map (·.get c) := by
  obtain ⟨rows⟩ := p
  have column := c.index_lt_five
  induction rows generalizing row with
  | nil => rfl
  | cons cells rows ih =>
    have five := cells.length_toList
    rw [data_cons]
    cases row with
    | zero =>
      rw [List.getElem?_append_left (by omega), Nat.zero_mul, Nat.zero_add,
        PerChannel.getElem?_toList]
      rfl
    | succ row =>
      rw [List.getElem?_append_right (by omega), five,
        show (row + 1) * 5 + c.index - 5 = row * 5 + c.index by omega]
      exact ih row

theorem set_data (p : Pattern) (row : Nat) (c : Channel) (cell : Cell) :
    p.data.set (row * 5 + c.index) cell = (p.setCell row c cell).data := by
  obtain ⟨rows⟩ := p
  have column := c.index_lt_five
  induction rows generalizing row with
  | nil => rfl
  | cons cells rows ih =>
    have five := cells.length_toList
    rw [data_cons]
    cases row with
    | zero =>
      rw [List.set_append_left _ _ (by omega), Nat.zero_mul, Nat.zero_add, PerChannel.set_toList]
      rfl
    | succ row =>
      have later : setCell ⟨cells :: rows⟩ (row + 1) c cell
          = ⟨cells :: (setCell ⟨rows⟩ row c cell).cells⟩ := by
        simp only [setCell, List.getElem?_cons_succ]
        cases rows[row]? <;> rfl
      rw [List.set_append_right _ _ (by omega), five,
        show (row + 1) * 5 + c.index - 5 = row * 5 + c.index by omega, ih, later, data_cons]

def inRows : List Cell → List (PerChannel Cell)
  | a :: b :: c :: d :: e :: cells => ⟨a, b, c, d, e⟩ :: inRows cells
  | _ => []

theorem inRows_data (p : Pattern) : inRows p.data = p.cells := by
  obtain ⟨rows⟩ := p
  induction rows with
  | nil => rfl
  | cons cells rows ih => exact congrArg (cells :: ·) ih

theorem data_inRows {cells : List Cell} {rows : Nat} (length : cells.length = rows * 5) :
    data ⟨inRows cells⟩ = cells := by
  induction rows generalizing cells with
  | zero =>
    obtain rfl := List.length_eq_zero_iff.mp (length.trans (Nat.zero_mul 5))
    rfl
  | succ rows ih =>
    match cells, length with
    | a :: b :: c :: d :: e :: later, length =>
      have rest : later.length = rows * 5 := by
        simp only [List.length_cons] at length
        omega
      rw [inRows, data_cons, ih rest]
      rfl
    | [], length | [_], length | [_, _], length | [_, _, _], length | [_, _, _, _], length =>
      simp only [List.length_cons, List.length_nil] at length
      omega

/-- A pattern is a number of rows with five cells for each. -/
theorem existsUnique_data {cells : List Cell} {rows : Nat} (length : cells.length = rows * 5) :
    ∃! p : Pattern, p.rows = rows ∧ p.data = cells := by
  have own := data_inRows length
  refine ⟨⟨inRows cells⟩, ⟨?_, own⟩, fun p same => ?_⟩
  · have counted := length_data ⟨inRows cells⟩
    rw [own, length] at counted
    omega
  · rw [← same.2, inRows_data]

end Pattern

end TuneBank
