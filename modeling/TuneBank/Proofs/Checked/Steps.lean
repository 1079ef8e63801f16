import Mathlib.Data.List.Basic

/-! Computations that check their steps. An index may be past the end, a buffer may be full, a sum
may not fit its byte and a text may be cut inside a character; each such step names its fault, and
next to it stands the lemma that says when it goes through. -/

namespace TuneBank

inductive Fault where
  | bounds
  | capacity
  | overflow
  | boundary
  deriving DecidableEq

abbrev Checked := Except Fault

namespace Checked
variable {α β : Type}

@[simp] theorem ok_bind (a : α) (f : α → Checked β) : ((Except.ok a : Checked α) >>= f) = f a := rfl

@[simp] theorem pure_eq_ok (a : α) : (pure a : Checked α) = .ok a := rfl

def require (fault : Fault) (p : Prop) [Decidable p] : Checked Unit :=
  if p then .ok () else .error fault

theorem require_value {fault : Fault} {p : Prop} [Decidable p] (h : p) :
    require fault p = .ok () := if_pos h

def index (l : List α) (i : Nat) : Checked α := (l[i]?).elim (.error .bounds) .ok

theorem index_value {l : List α} {i : Nat} {a : α} (h : l[i]? = some a) : index l i = .ok a := by
  rw [index, h, Option.elim_some]

def replace (l : List α) (i : Nat) (a : α) : Checked (List α) :=
  if i < l.length then .ok (l.set i a) else .error .bounds

theorem replace_value {l : List α} {i : Nat} (h : i < l.length) (a : α) :
    replace l i a = .ok (l.set i a) := if_pos h

def rest (l : List α) (start : Nat) : Checked (List α) :=
  if start ≤ l.length then .ok (l.drop start) else .error .bounds

theorem rest_value {l : List α} {start : Nat} (h : start ≤ l.length) :
    rest l start = .ok (l.drop start) := if_pos h

def slice (l : List α) (start stop : Nat) : Checked (List α) :=
  if start ≤ stop ∧ stop ≤ l.length then .ok ((l.take stop).drop start) else .error .bounds

theorem slice_value {l : List α} {start stop : Nat} (ordered : start ≤ stop)
    (inside : stop ≤ l.length) : slice l start stop = .ok ((l.take stop).drop start) :=
  if_pos ⟨ordered, inside⟩

def push (capacity : Nat) (buffer : List α) (a : α) : Checked (List α) :=
  if buffer.length < capacity then .ok (buffer ++ [a]) else .error .capacity

theorem push_value {capacity : Nat} {buffer : List α} (room : buffer.length < capacity) (a : α) :
    push capacity buffer a = .ok (buffer ++ [a]) := if_pos room

def pushAll (capacity : Nat) (buffer as : List α) : Checked (List α) :=
  as.foldlM (push capacity) buffer

def addBytes (a b : UInt8) : Checked UInt8 :=
  if a.toNat + b.toNat < 256 then .ok (a + b) else .error .overflow

theorem addBytes_value {a b : UInt8} (small : a.toNat + b.toNat < 256) :
    addBytes a b = .ok (a + b) := if_pos small

def subtract (m n : Nat) : Checked Nat := if n ≤ m then .ok (m - n) else .error .overflow

theorem subtract_value {m n : Nat} (h : n ≤ m) : subtract m n = .ok (m - n) := if_pos h

def word (n : Nat) : Checked Nat := if n < UInt16.size then .ok n else .error .overflow

theorem word_value {n : Nat} (small : n < UInt16.size) : word n = .ok n := if_pos small

/-! Loops -/

theorem mapM_value {f : α → Checked β} {g : α → β} {as : List α}
    (h : ∀ a ∈ as, f a = .ok (g a)) : as.mapM f = .ok (as.map g) := by
  induction as with
  | nil => rfl
  | cons a as ih =>
    obtain ⟨first, later⟩ := List.forall_mem_cons.mp h
    rw [List.mapM_cons, first, ok_bind, ih later]
    rfl

theorem foldlM_invariant {f : β → α → Checked β} {g : β → α → β} (P : β → Prop) {as : List α}
    {b : β} (start : P b) (step : ∀ a ∈ as, ∀ b, P b → f b a = .ok (g b a) ∧ P (g b a)) :
    as.foldlM f b = .ok (as.foldl g b) := by
  induction as generalizing b with
  | nil => rfl
  | cons a as ih =>
    obtain ⟨first, later⟩ := List.forall_mem_cons.mp step
    obtain ⟨done, kept⟩ := first b start
    rw [List.foldlM_cons, done, ok_bind, List.foldl_cons]
    exact ih kept later

theorem foldlM_value {f : β → α → Checked β} {g : β → α → β} {as : List α}
    (h : ∀ b a, f b a = .ok (g b a)) (b : β) : as.foldlM f b = .ok (as.foldl g b) :=
  foldlM_invariant (fun _ => True) trivial fun a _ b _ => ⟨h b a, trivial⟩

/-! Buffers -/

/-- The step puts these entries at the end of a buffer, wherever there is room for them. -/
def Appends (capacity : Nat) (step : List α → Checked (List α)) (as : List α) : Prop :=
  ∀ buffer, buffer.length + as.length ≤ capacity → step buffer = .ok (buffer ++ as)

namespace Appends
variable {capacity : Nat} {first second : List α → Checked (List α)} {as bs : List α}

theorem nothing : Appends capacity (.ok : List α → Checked (List α)) [] := fun buffer _ => by
  rw [List.append_nil]

theorem one (a : α) : Appends capacity (push capacity · a) [a] := fun _ room => push_value room a

theorem andThen (h : Appends capacity first as) (later : Appends capacity second bs) :
    Appends capacity (fun buffer => first buffer >>= second) (as ++ bs) := by
  intro buffer room
  rw [List.length_append] at room
  have left : (buffer ++ as).length + bs.length ≤ capacity := by
    rw [List.length_append]
    omega
  change first buffer >>= second = _
  rw [h buffer (by omega), ok_bind, later _ left, List.append_assoc]

theorem each {f : List α → β → Checked (List α)} {g : β → List α}
    (h : ∀ b, Appends capacity (f · b) (g b)) (bs : List β) :
    Appends capacity (bs.foldlM f ·) (bs.flatMap g) := by
  induction bs with
  | nil => exact nothing
  | cons b bs ih => exact (h b).andThen ih

theorem all (as : List α) : Appends capacity (pushAll capacity · as) as := by
  have entries : Appends capacity (as.foldlM (push capacity) ·) (as.flatMap fun a => [a]) :=
    each one as
  rwa [List.flatMap_singleton'] at entries

theorem fill (h : Appends capacity first as) (room : as.length ≤ capacity)
    (rest : List α → Checked β) : first [] >>= rest = rest as := by
  rw [h [] (by rwa [List.length_nil, Nat.zero_add]), ok_bind, List.nil_append]

end Appends

theorem length_flatMap_le {g : β → List α} {n : Nat} {bs : List β}
    (few : ∀ b ∈ bs, (g b).length ≤ n) : (bs.flatMap g).length ≤ n * bs.length := by
  induction bs with
  | nil => exact Nat.zero_le _
  | cons b bs ih =>
    obtain ⟨here, later⟩ := List.forall_mem_cons.mp few
    have rest := ih later
    rw [List.flatMap_cons, List.length_append, List.length_cons, Nat.mul_succ]
    omega

/-! Steps of a reader, which may also refuse what it reads -/

def step (a : Checked α) : OptionT Checked α := OptionT.lift a

def reading (a : Checked (Option α)) : OptionT Checked α := OptionT.mk a

def given (a : Option α) : OptionT Checked α := OptionT.mk (.ok a)

@[simp] theorem step_ok_bind (a : α) (f : α → OptionT Checked β) : (step (.ok a) >>= f) = f a := rfl

@[simp] theorem reading_ok (a : Option α) : reading (.ok a) = given a := rfl

@[simp] theorem run_given (a : Option α) : (given a).run = .ok a := rfl

theorem given_bind_given (a : Option α) (f : α → Option β) :
    (given a >>= fun x => given (f x)) = given (a >>= f) := by
  cases a <;> rfl

theorem pure_eq_given (a : α) : (pure a : OptionT Checked α) = given (some a) := rfl

end Checked

end TuneBank
