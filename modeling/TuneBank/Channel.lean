import TuneBank.Text.Numeral

/-! The five sound channels of the console, in the order of the columns of an export, and tuples
with one entry per channel. The first four are the voices that are packed into byte-code. -/

namespace TuneBank

inductive Channel where
  | pulse1
  | pulse2
  | triangle
  | noise
  /-- Sample playback: read from an export, never packed. -/
  | dpcm
  deriving DecidableEq

namespace Channel

def all : List Channel := [pulse1, pulse2, triangle, noise, dpcm]

def index : Channel → Nat
  | pulse1 => 0
  | pulse2 => 1
  | triangle => 2
  | noise => 3
  | dpcm => 4

def ofIndex? (n : Nat) : Option Channel := all[n]?

theorem mem_all (c : Channel) : c ∈ all := by
  cases c <;> decide

instance {P : Channel → Prop} [DecidablePred P] : Decidable (∀ c, P c) :=
  decidable_of_iff (∀ c ∈ all, P c) ⟨fun h c => h c c.mem_all, fun h c _ => h c⟩

/-- Notes of the noise channel are period classes. -/
def isNoise : Channel → Bool
  | noise => true
  | _ => false

def name : Channel → String
  | pulse1 => "pulse 1"
  | pulse2 => "pulse 2"
  | triangle => "triangle"
  | noise => "noise"
  | dpcm => "dpcm"

def label (c : Channel) : String :=
  Text.decimal c.index ++ " (" ++ c.name ++ ")"

end Channel

inductive Voice where
  | pulse1
  | pulse2
  | triangle
  | noise
  deriving DecidableEq

namespace Voice

def all : List Voice := [pulse1, pulse2, triangle, noise]

def channel : Voice → Channel
  | pulse1 => .pulse1
  | pulse2 => .pulse2
  | triangle => .triangle
  | noise => .noise

end Voice

def Channel.voice? : Channel → Option Voice
  | .pulse1 => some .pulse1
  | .pulse2 => some .pulse2
  | .triangle => some .triangle
  | .noise => some .noise
  | .dpcm => none

theorem Voice.voice?_channel (v : Voice) : v.channel.voice? = some v := by
  cases v <;> rfl

structure PerChannel (α : Type) where
  pulse1 : α
  pulse2 : α
  triangle : α
  noise : α
  dpcm : α
  deriving DecidableEq

namespace PerChannel
variable {α β : Type}

def get (t : PerChannel α) : Channel → α
  | .pulse1 => t.pulse1
  | .pulse2 => t.pulse2
  | .triangle => t.triangle
  | .noise => t.noise
  | .dpcm => t.dpcm

def ofFn (f : Channel → α) : PerChannel α :=
  ⟨f .pulse1, f .pulse2, f .triangle, f .noise, f .dpcm⟩

@[simp] theorem get_ofFn (f : Channel → α) (c : Channel) : (ofFn f).get c = f c := by
  cases c <;> rfl

theorem ext_get {s t : PerChannel α} (h : ∀ c, s.get c = t.get c) : s = t := by
  cases s; cases t
  simpa [get] using And.intro (h .pulse1) (And.intro (h .pulse2)
    (And.intro (h .triangle) (And.intro (h .noise) (h .dpcm))))

def set (t : PerChannel α) (c : Channel) (a : α) : PerChannel α :=
  ofFn fun d => if d = c then a else t.get d

def toList (t : PerChannel α) : List α := Channel.all.map t.get

def ofList? : List α → Option (PerChannel α)
  | [a, b, c, d, e] => some ⟨a, b, c, d, e⟩
  | _ => none

theorem ofList?_toList (t : PerChannel α) : ofList? t.toList = some t := rfl

def traverse? (f : Channel → α → Option β) (t : PerChannel α) : Option (PerChannel β) := do
  return ⟨← f .pulse1 t.pulse1, ← f .pulse2 t.pulse2, ← f .triangle t.triangle,
    ← f .noise t.noise, ← f .dpcm t.dpcm⟩

theorem traverse?_eq_some_iff {f : Channel → α → Option β} {t : PerChannel α} {u : PerChannel β} :
    t.traverse? f = some u ↔ ∀ c, f c (t.get c) = some (u.get c) := by
  constructor
  · intro h c
    obtain ⟨p, q, t, n, d⟩ := t
    simp only [traverse?, bind, pure, Option.bind_eq_some_iff, Option.some.injEq] at h
    obtain ⟨_, hp, _, hq, _, ht, _, hn, _, hd, rfl⟩ := h
    cases c <;> assumption
  · intro h
    have each := And.intro (h .pulse1) (And.intro (h .pulse2)
      (And.intro (h .triangle) (And.intro (h .noise) (h .dpcm))))
    simp only [get] at each
    simp only [traverse?, each]
    rfl

end PerChannel

structure PerVoice (α : Type) where
  pulse1 : α
  pulse2 : α
  triangle : α
  noise : α
  deriving DecidableEq

namespace PerVoice
variable {α : Type}

def get (t : PerVoice α) : Voice → α
  | .pulse1 => t.pulse1
  | .pulse2 => t.pulse2
  | .triangle => t.triangle
  | .noise => t.noise

def ofFn (f : Voice → α) : PerVoice α :=
  ⟨f .pulse1, f .pulse2, f .triangle, f .noise⟩

@[simp] theorem get_ofFn (f : Voice → α) (v : Voice) : (ofFn f).get v = f v := by
  cases v <;> rfl

def set (t : PerVoice α) (v : Voice) (a : α) : PerVoice α :=
  ofFn fun w => if w = v then a else t.get w

@[simp] theorem get_set (t : PerVoice α) (v w : Voice) (a : α) :
    (t.set v a).get w = if w = v then a else t.get w := by
  simp [set]

def toList (t : PerVoice α) : List α := Voice.all.map t.get

def ofList? : List α → Option (PerVoice α)
  | [a, b, c, d] => some ⟨a, b, c, d⟩
  | _ => none

end PerVoice

end TuneBank
