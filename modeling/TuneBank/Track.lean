import TuneBank.Cell
import TuneBank.Macro

/-! One song or sound effect as authored: macros, instruments, the order of pattern slots and
the patterns. Lists grow on demand; a gap below a new entry is filled with a neutral one. -/

namespace TuneBank

structure Instrument where
  name : String
  macros : PerKind (Option UInt8)
  deriving DecidableEq

def Instrument.empty : Instrument := ⟨"", ⟨none, none, none, none, none⟩⟩

structure Pattern where
  cells : List (PerChannel Cell)
  deriving DecidableEq

namespace Pattern

def maxRows : Nat := 256

def emptyRow : PerChannel Cell := .ofFn fun _ => .empty

def empty (rows : Nat) : Pattern := ⟨List.replicate rows emptyRow⟩

def rows (p : Pattern) : Nat := p.cells.length

@[simp] theorem rows_empty (n : Nat) : (empty n).rows = n := by
  simp [rows, empty]

def setRow (p : Pattern) (row : Nat) (cells : PerChannel Cell) : Pattern :=
  ⟨p.cells.set row cells⟩

@[simp] theorem rows_setRow (p : Pattern) (row : Nat) (cells : PerChannel Cell) :
    (p.setRow row cells).rows = p.rows := by
  simp [rows, setRow]

/-- Change one cell; a row past the end changes nothing. -/
def setCell (p : Pattern) (row : Nat) (c : Channel) (cell : Cell) : Pattern :=
  match p.cells[row]? with
  | some cells => p.setRow row (cells.set c cell)
  | none => p

end Pattern

/-- A list with entry `i` replaced, grown by the filler if it is too short. -/
def setGrowing {α : Type} (filler : α) (l : List α) (i : Nat) (a : α) : List α :=
  (l ++ List.replicate (i + 1 - l.length) filler).set i a

theorem length_setGrowing {α : Type} (filler : α) (l : List α) (i : Nat) (a : α) :
    (setGrowing filler l i a).length = max l.length (i + 1) := by
  simp only [setGrowing, List.length_set, List.length_append, List.length_replicate]
  omega

theorem getElem?_setGrowing {α : Type} (filler : α) (l : List α) (i j : Nat) (a : α) :
    (setGrowing filler l i a)[j]? =
      if j = i then some a
      else if j < l.length then l[j]? else if j < i then some filler else none := by
  unfold setGrowing
  rw [List.getElem?_set]
  by_cases same : i = j
  · subst same
    have : i < (l ++ List.replicate (i + 1 - l.length) filler).length := by
      simp only [List.length_append, List.length_replicate]
      omega
    rw [if_pos rfl, if_pos this, if_pos rfl]
  · rw [if_neg same, if_neg (Ne.symm same), List.getElem?_append]
    split
    · rfl
    · rename_i past
      rw [List.getElem?_replicate]
      by_cases below : j < i
      · rw [if_pos (by omega), if_pos below]
      · rw [if_neg (by omega), if_neg below]

abbrev Frame := PerChannel UInt8

structure Track where
  title : String
  speed : UInt8
  tempo : Nat
  patternLength : Nat
  macros : PerKind (List Macro)
  instruments : List Instrument
  order : List Frame
  patterns : List Pattern
  deriving DecidableEq

namespace Track

def requiredTempo : Nat := 150

def defaultSpeed : UInt8 := 6

def defaultPatternLength : Nat := 64

def new (title : String) : Track where
  title := title
  speed := defaultSpeed
  tempo := requiredTempo
  patternLength := defaultPatternLength
  macros := ⟨[], [], [], [], []⟩
  instruments := []
  order := []
  patterns := []

/-- Define a macro; no-op macros fill a gap below it. -/
def setMacro (t : Track) (kind : MacroKind) (i : Nat) (m : Macro) : Track :=
  { t with macros := t.macros.set kind (setGrowing .noop (t.macros.get kind) i m) }

/-- Define an instrument; instruments without macros fill a gap below it. -/
def setInstrument (t : Track) (i : Nat) (inst : Instrument) : Track :=
  { t with instruments := setGrowing .empty t.instruments i inst }

/-- Set a row of the order; rows of slot 0 fill a gap below it. -/
def setFrame (t : Track) (i : Nat) (frame : Frame) : Track :=
  { t with order := setGrowing (.ofFn fun _ => 0) t.order i frame }

/-- Make sure of a pattern slot: empty patterns of the present length fill up to it. -/
def ensureSlot (t : Track) (slot : UInt8) : Track :=
  { t with
    patterns := t.patterns ++
      List.replicate (slot.toNat + 1 - t.patterns.length) (.empty t.patternLength) }

def pattern? (t : Track) (slot : UInt8) : Option Pattern := t.patterns[slot.toNat]?

/-- Rows of a slot, none if nothing was ever written to it or above it. -/
def slotRows (t : Track) (slot : UInt8) : Nat := ((t.pattern? slot).map Pattern.rows).getD 0

def modifySlot (t : Track) (slot : UInt8) (f : Pattern → Pattern) : Track :=
  { t with patterns := t.patterns.modify slot.toNat f }

/-- The cell at a position; missing slots and rows read as empty. -/
def cell (t : Track) (c : Channel) (slot : UInt8) (row : Nat) : Cell :=
  match (t.pattern? slot).bind (·.cells[row]?) with
  | some cells => cells.get c
  | none => .empty

/-- The cells of a slot that are played on a channel, from row 0. -/
def column (t : Track) (c : Channel) (slot : UInt8) : List Cell :=
  let written := ((t.pattern? slot).elim [] Pattern.cells).take t.patternLength
  written.map (·.get c) ++ List.replicate (t.patternLength - written.length) .empty

@[simp] theorem length_column (t : Track) (c : Channel) (slot : UInt8) :
    (t.column c slot).length = t.patternLength := by
  simp only [column, List.length_append, List.length_map, List.length_replicate, List.length_take]
  omega

theorem getElem?_column (t : Track) (c : Channel) (slot : UInt8) (row : Nat)
    (h : row < t.patternLength) : (t.column c slot)[row]? = some (t.cell c slot row) := by
  unfold column cell
  cases t.pattern? slot with
  | none => simp [h]
  | some p =>
    by_cases inside : row < p.cells.length
    · have short : row < min t.patternLength p.cells.length := by omega
      simp [List.getElem?_append, short, inside]
    · have missing : p.cells[row]? = none := by
        rw [List.getElem?_eq_none_iff]
        omega
      have after : ¬ row < min t.patternLength p.cells.length := by omega
      simp only [Option.elim_some, Option.bind_some, missing, List.getElem?_append, List.length_map,
        List.length_take, after, if_false, List.getElem?_replicate]
      rw [if_pos (by omega)]

theorem column_eq_map (t : Track) (c : Channel) (slot : UInt8) :
    t.column c slot = (List.range t.patternLength).map (t.cell c slot) := by
  refine List.ext_getElem? fun row => ?_
  by_cases h : row < t.patternLength
  · rw [getElem?_column t c slot row h]
    simp [h]
  · rw [List.getElem?_eq_none_iff.mpr (by simpa using h),
      List.getElem?_eq_none_iff.mpr (by simpa using h)]

def maxSlot? (t : Track) (c : Channel) : Option UInt8 :=
  (t.order.map (·.get c)).max?

/-- The slots of a channel that are packed: all up to the highest that the order names. -/
def slots (t : Track) (c : Channel) : List UInt8 :=
  match t.maxSlot? c with
  | some top => (List.range (top.toNat + 1)).map UInt8.ofNat
  | none => []

end Track

end TuneBank
