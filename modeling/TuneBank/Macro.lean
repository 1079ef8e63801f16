/-! Instrument macros: per-tick values of one instrument parameter with the tick to resume at.
The driver walks the packed form `ticks, marker, loop point` for as long as a note sounds. -/

namespace TuneBank

inductive MacroKind where
  | volume
  | arpeggio
  | pitch
  | hiPitch
  | duty
  deriving DecidableEq

namespace MacroKind

def all : List MacroKind := [volume, arpeggio, pitch, hiPitch, duty]

/-- The slot of the kind in an instrument, also its number in an export. -/
def index : MacroKind → Nat
  | volume => 0
  | arpeggio => 1
  | pitch => 2
  | hiPitch => 3
  | duty => 4

def ofIndex? (n : Nat) : Option MacroKind := all[n]?

theorem ofIndex?_index (k : MacroKind) : ofIndex? k.index = some k := by
  cases k <;> rfl

theorem mem_all (k : MacroKind) : k ∈ all := by
  cases k <;> decide

instance {P : MacroKind → Prop} [DecidablePred P] : Decidable (∀ k, P k) :=
  decidable_of_iff (∀ k ∈ all, P k) ⟨fun h k => h k k.mem_all, fun h k _ => h k⟩

def name : MacroKind → String
  | volume => "volume"
  | arpeggio => "arpeggio"
  | pitch => "pitch"
  | hiPitch => "hi-pitch"
  | duty => "duty"

end MacroKind

structure PerKind (α : Type) where
  volume : α
  arpeggio : α
  pitch : α
  hiPitch : α
  duty : α
  deriving DecidableEq

namespace PerKind
variable {α : Type}

def get (t : PerKind α) : MacroKind → α
  | .volume => t.volume
  | .arpeggio => t.arpeggio
  | .pitch => t.pitch
  | .hiPitch => t.hiPitch
  | .duty => t.duty

def ofFn (f : MacroKind → α) : PerKind α :=
  ⟨f .volume, f .arpeggio, f .pitch, f .hiPitch, f .duty⟩

@[simp] theorem get_ofFn (f : MacroKind → α) (k : MacroKind) : (ofFn f).get k = f k := by
  cases k <;> rfl

theorem ext_get {s t : PerKind α} (h : ∀ k, s.get k = t.get k) : s = t := by
  cases s; cases t
  simpa [get] using And.intro (h .volume) (And.intro (h .arpeggio)
    (And.intro (h .pitch) (And.intro (h .hiPitch) (h .duty))))

def set (t : PerKind α) (k : MacroKind) (a : α) : PerKind α :=
  ofFn fun l => if l = k then a else t.get l

@[simp] theorem get_set (t : PerKind α) (k l : MacroKind) (a : α) :
    (t.set k a).get l = if l = k then a else t.get l := by
  simp [set]

theorem set_set (t : PerKind α) (k : MacroKind) (a b : α) : (t.set k a).set k b = t.set k b :=
  ext_get fun l => by
    simp only [get_set]
    split <;> rfl

theorem set_get (t : PerKind α) (k : MacroKind) : t.set k (t.get k) = t :=
  ext_get fun l => by
    rw [get_set]
    split
    · rename_i same
      rw [same]
    · rfl

def toList (t : PerKind α) : List α := MacroKind.all.map t.get

def ofList? : List α → Option (PerKind α)
  | [a, b, c, d, e] => some ⟨a, b, c, d, e⟩
  | _ => none

def traverse? {β : Type} (f : α → Option β) (t : PerKind α) : Option (PerKind β) := do
  return ⟨← f t.volume, ← f t.arpeggio, ← f t.pitch, ← f t.hiPitch, ← f t.duty⟩

theorem traverse?_eq_some_iff {β : Type} {f : α → Option β} {t : PerKind α} {u : PerKind β} :
    t.traverse? f = some u ↔ ∀ k, f (t.get k) = some (u.get k) := by
  constructor
  · intro h k
    obtain ⟨v, a, p, hp, d⟩ := t
    simp only [traverse?, bind, pure, Option.bind_eq_some_iff, Option.some.injEq] at h
    obtain ⟨_, hv, _, ha, _, hpitch, _, hhi, _, hd, rfl⟩ := h
    cases k <;> assumption
  · intro h
    have each := And.intro (h .volume) (And.intro (h .arpeggio)
      (And.intro (h .pitch) (And.intro (h .hiPitch) (h .duty))))
    simp only [get] at each
    simp only [traverse?, each]
    rfl

end PerKind

structure Macro where
  ticks : List Int8
  loopPoint : UInt8
  deriving DecidableEq

namespace Macro

/-- The value that ends the ticks in packed form. -/
def loopMarker : Int8 := -128

/-- Most values that are read from an author: the loop point is one byte, and a pitch macro
that runs out grows by one tick. -/
def maxLength : Nat := 255

def noop : Macro := ⟨[0], 0⟩

def fullVolume : Macro := ⟨[15], 0⟩

/-- The macro an author means by a list of values and a tick to resume at. Without one the last
tick is held; a pitch macro then gets a zero tick to hold, so that the pitch stops drifting. No
values make the no-op macro, values past the maximum are dropped, and a loop point past the
remaining ticks counts as none. -/
def ofAuthored (kind : MacroKind) (values : List Int8) (loopPoint : Option UInt8) : Macro :=
  if values.isEmpty then noop
  else
    let ticks := values.take maxLength
    match loopPoint.filter (·.toNat < ticks.length) with
    | some point => ⟨ticks, point⟩
    | none =>
      let held := if kind = .pitch then ticks ++ [0] else ticks
      ⟨held, UInt8.ofNat (held.length - 1)⟩

def packed (m : Macro) : List Int :=
  m.ticks.map Int8.toInt ++ [loopMarker.toInt, m.loopPoint.toNat]

def packedSize (m : Macro) : Nat := m.ticks.length + 2

theorem length_packed (m : Macro) : m.packed.length = m.packedSize := by
  simp [packed, packedSize]

end Macro

end TuneBank
