import TuneBank.Bytecode.PatternStream
import TuneBank.Proofs.Stream.Split

/-! A reference driver for pattern streams, and what an author means by a column of cells.
`play` reads tokens one after another; a row is over at a note or at the skip that closes it.
`perform` goes through the cells themselves and knows nothing of tokens. -/

namespace TuneBank.Bytecode

inductive Sound where
  | silent
  | cut
  | pitch (number : Nat)
  deriving DecidableEq

structure Registers where
  volume : UInt8
  instrument : UInt8
  deriving DecidableEq

structure PlayedRow where
  effects : List Effect
  sound : Sound
  registers : Registers
  deriving DecidableEq

/-- Rows without further tokens, of which the first is the one being read. -/
def closeRows (r : Registers) (effects : List Effect) : Nat → List PlayedRow
  | 0 => []
  | n + 1 => ⟨effects, .silent, r⟩ :: List.replicate n ⟨[], .silent, r⟩

/-- Play tokens, where `effects` are those that the row being read has had so far. A skip closes
that row and counts one row less than it stands for, but the last token of a stream counts all. -/
def play : Registers → List Effect → List Token → List PlayedRow
  | _, _, [] => []
  | r, effects, [.skip rows] => closeRows r effects rows.toNat
  | r, effects, .skip rows :: t :: ts => closeRows r effects (rows.toNat + 1) ++ play r [] (t :: ts)
  | r, effects, .halt :: ts => ⟨effects, .cut, r⟩ :: play r [] ts
  | r, effects, .pitch byte :: ts =>
    ⟨effects, .pitch (byte.toNat - (Code.halt.toNat + 1)), r⟩ :: play r [] ts
  | r, effects, .volume level :: ts => play { r with volume := level } effects ts
  | r, effects, .instrument number :: ts => play { r with instrument := number } effects ts
  | r, effects, .loop frame :: ts => play r (effects ++ [⟨loopLetter, frame⟩]) ts
  | r, effects, .patternBreak :: ts => play r (effects ++ [⟨breakLetter, 0⟩]) ts
  | r, effects, .speed ticks :: ts => play r (effects ++ [⟨speedLetter, ticks⟩]) ts

def playBytes? (r : Registers) (bytes : List UInt8) : Option (List PlayedRow) :=
  (Token.split? bytes).map (play r [])

/-- The effect as the driver has it. A pattern break has no parameter there. -/
def played? (e : Effect) : Option Effect :=
  if e.code = loopLetter then some e
  else if e.code = breakLetter then some ⟨breakLetter, 0⟩
  else if e.code = speedLetter then some e
  else none

/-- The pitch with a number, which is silent from the first volume on. -/
def Sound.ofPitch (number : Nat) : Sound :=
  if Code.halt.toNat + 1 + number < Code.volume.toNat then .pitch number else .silent

def Sound.ofNote : Note → Sound
  | .blank | .release => .silent
  | .halt => .cut
  | .tone octave semitone => .ofPitch (12 * octave.toNat + semitone.toNat)
  | .noise period => .ofPitch period.toNat

/-- The registers once a cell has been read. An instrument that the map does not know changes
nothing. -/
def Registers.after (map : List UInt8) (r : Registers) (cell : Cell) : Registers where
  volume := cell.volume.getD r.volume
  instrument := (cell.instrument.bind fun number => map[number.toNat]?).getD r.instrument

/-- The rows that an author means by cells. -/
def perform (map : List UInt8) : Registers → List Cell → List PlayedRow
  | _, [] => []
  | r, cell :: cells =>
    ⟨cell.effects.filterMap played?, .ofNote cell.note, r.after map cell⟩
      :: perform map (r.after map cell) cells

@[simp] theorem length_perform (map : List UInt8) (r : Registers) (cells : List Cell) :
    (perform map r cells).length = cells.length := by
  induction cells generalizing r with
  | nil => rfl
  | cons cell cells ih => simp [perform, ih]

def latest {α : Type} (value : Nat → Option α) : Nat → Option α
  | 0 => value 0
  | row + 1 => (value (row + 1)).or (latest value row)

theorem latest_shift {α : Type} (value : Nat → Option α) (row : Nat) :
    latest value (row + 1) = (latest (fun i => value (i + 1)) row).or (value 0) := by
  induction row with
  | zero => rfl
  | succ row ih =>
    rw [latest, ih, ← Option.or_assoc]
    rfl

theorem latest_congr {α : Type} {f g : Nat → Option α} {row : Nat} (h : ∀ i ≤ row, f i = g i) :
    latest f row = latest g row := by
  induction row with
  | zero => exact h 0 (Nat.le_refl 0)
  | succ row ih =>
    rw [latest, latest, h (row + 1) (Nat.le_refl _), ih fun i bound => h i (by omega)]

theorem exists_of_latest {α : Type} {f : Nat → Option α} {row : Nat} {a : α}
    (h : latest f row = some a) : ∃ i ≤ row, f i = some a := by
  induction row with
  | zero => exact ⟨0, Nat.le_refl 0, h⟩
  | succ row ih =>
    rcases Option.or_eq_some_iff.mp h with here | ⟨-, before⟩
    · exact ⟨row + 1, Nat.le_refl _, here⟩
    · obtain ⟨i, bound, found⟩ := ih before
      exact ⟨i, Nat.le_succ_of_le bound, found⟩

theorem latest_bind {α β : Type} {f : Nat → Option α} {g : α → Option β} {row : Nat}
    (total : ∀ i ≤ row, ∀ a, f i = some a → (g a).isSome) :
    latest (fun i => (f i).bind g) row = (latest f row).bind g := by
  induction row with
  | zero => rfl
  | succ row ih =>
    rw [latest, latest, ih fun i bound => total i (by omega)]
    cases here : f (row + 1) with
    | none => rfl
    | some a =>
      obtain ⟨b, image⟩ := Option.isSome_iff_exists.mp (total (row + 1) (Nat.le_refl _) a here)
      simp [image]

theorem getElem?_perform (map : List UInt8) (r : Registers) (cells : List Cell) (row : Nat)
    (bound : row < cells.length) :
    (perform map r cells)[row]? = some
      { effects := cells[row].effects.filterMap played?
        sound := .ofNote cells[row].note
        registers :=
          { volume := (latest (fun i => cells[i]?.bind Cell.volume) row).getD r.volume
            instrument := (latest (fun i => (cells[i]?.bind Cell.instrument).bind
              fun number => map[number.toNat]?) row).getD r.instrument } } := by
  induction cells generalizing r row with
  | nil => exact absurd bound (Nat.not_lt_zero row)
  | cons cell cells ih =>
    cases row with
    | zero => rfl
    | succ row =>
      rw [perform, List.getElem?_cons_succ, ih _ row (Nat.lt_of_succ_lt_succ bound)]
      simp only [latest_shift, List.getElem?_cons_succ, List.getElem?_cons_zero,
        List.getElem_cons_succ, Option.bind_some, Registers.after, Option.getD_or]

end TuneBank.Bytecode
