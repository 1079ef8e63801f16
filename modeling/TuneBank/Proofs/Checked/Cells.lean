import TuneBank.Proofs.Checked.Steps
import TuneBank.Proofs.Track.Data

/-! Cells at their places in the list of a pattern: five times the row and the column. A place is
inside wherever the row is one of the pattern. -/

namespace TuneBank.Checked

def readCell (p : Pattern) (row : Nat) (c : Channel) : Checked Cell := do
  require .bounds (row < p.rows)
  index p.data (row * 5 + c.index)

theorem readCell_value {p : Pattern} {row : Nat} {cells : PerChannel Cell}
    (h : p.cells[row]? = some cells) (c : Channel) : readCell p row c = .ok (cells.get c) := by
  have inside : row < p.rows := (List.getElem?_eq_some_iff.mp h).1
  rw [readCell, require_value inside, ok_bind, index_value]
  rw [Pattern.getElem?_data, h, Option.map_some]

def writeCell (p : Pattern) (row : Nat) (c : Channel) (cell : Cell) : Checked Pattern := do
  require .bounds (row < p.rows)
  let data ← replace p.data (row * 5 + c.index) cell
  return ⟨Pattern.inRows data⟩

theorem writeCell_value {p : Pattern} {row : Nat} (inside : row < p.rows) (c : Channel)
    (cell : Cell) : writeCell p row c cell = .ok (p.setCell row c cell) := by
  have place : row * 5 + c.index < p.data.length := by
    have column := c.index_lt_five
    have length := p.length_data
    omega
  rw [writeCell, require_value inside, ok_bind, replace_value place, ok_bind, Pattern.set_data,
    Pattern.inRows_data]
  rfl

def writeRow (p : Pattern) (row : Nat) (cells : PerChannel Cell) : Checked Pattern :=
  Channel.all.foldlM (fun p c => writeCell p row c (cells.get c)) p

theorem setCell_eq {p : Pattern} {row : Nat} {cells : PerChannel Cell}
    (h : p.cells[row]? = some cells) (c : Channel) (cell : Cell) :
    p.setCell row c cell = p.setRow row (cells.set c cell) := by
  simp only [Pattern.setCell, h]

theorem foldl_setCell {p : Pattern} {row : Nat} {old : PerChannel Cell}
    (h : p.cells[row]? = some old) (cells : PerChannel Cell) (cs : List Channel) :
    cs.foldl (fun p c => p.setCell row c (cells.get c)) p
      = p.setRow row (cs.foldl (fun t c => t.set c (cells.get c)) old) := by
  induction cs generalizing p old with
  | nil =>
    obtain ⟨inside, rfl⟩ := List.getElem?_eq_some_iff.mp h
    exact congrArg Pattern.mk (List.set_getElem_self inside).symm
  | cons c cs ih =>
    have inside : row < p.cells.length := (List.getElem?_eq_some_iff.mp h).1
    have written : (p.setRow row (old.set c (cells.get c))).cells[row]?
        = some (old.set c (cells.get c)) := List.getElem?_set_self inside
    rw [List.foldl_cons, setCell_eq h, ih written]
    exact congrArg Pattern.mk (List.set_set _)

theorem writeRow_value {p : Pattern} {row : Nat} (inside : row < p.rows)
    (cells : PerChannel Cell) : writeRow p row cells = .ok (p.setRow row cells) := by
  obtain ⟨old, here⟩ : ∃ old, p.cells[row]? = some old := ⟨_, List.getElem?_eq_getElem inside⟩
  have all : Channel.all.foldl (fun t c => t.set c (cells.get c)) old = cells := rfl
  have steps : writeRow p row cells
      = .ok (Channel.all.foldl (fun p c => p.setCell row c (cells.get c)) p) := by
    refine foldlM_invariant (fun q => row < q.rows) inside fun c _ q place => ?_
    obtain ⟨cells, found⟩ : ∃ cells, q.cells[row]? = some cells :=
      ⟨_, List.getElem?_eq_getElem place⟩
    refine ⟨writeCell_value place c _, ?_⟩
    rw [setCell_eq found, Pattern.rows_setRow]
    exact place
  rw [steps, foldl_setCell here, all]

def cell (t : Track) (c : Channel) (slot : UInt8) (row : Nat) : Checked Cell :=
  match t.pattern? slot with
  | none => .ok .empty
  | some p => if row < p.rows then readCell p row c else .ok .empty

theorem cell_value (t : Track) (c : Channel) (slot : UInt8) (row : Nat) :
    cell t c slot row = .ok (t.cell c slot row) := by
  rw [cell, Track.cell]
  cases t.pattern? slot with
  | none => rfl
  | some p =>
    by_cases inside : row < p.rows
    · have here : p.cells[row]? = some p.cells[row] := List.getElem?_eq_getElem inside
      simp only [if_pos inside, readCell_value here, Option.bind_some, here]
    · have none : p.cells[row]? = none := List.getElem?_eq_none (Nat.le_of_not_lt inside)
      simp only [if_neg inside, Option.bind_some, none]

end TuneBank.Checked
