import Mathlib.Data.List.Forall2
import TuneBank.Proofs.Listing.Assembler

/-! The parts of a listing and the blocks that they are. A part that starts with a label can follow
any other, so the blocks of a listing are those of its parts, one after another. -/

namespace TuneBank.Listing

open List (Forall₂)

variable {defs : List (String × Int)}

/-- The operand is this item of data. -/
def Denotes (defs : List (String × Int)) (operand : String) (d : Datum) : Prop :=
  Atom operand ∧ datum? defs operand = some d

theorem mapM_of_denotes {operands : List String} {ds : List Datum}
    (h : Forall₂ (Denotes defs) operands ds) :
    (∀ o ∈ operands, Atom o) ∧ operands.mapM (datum? defs) = some ds := by
  induction h with
  | nil => exact ⟨fun _ none => absurd none List.not_mem_nil, rfl⟩
  | cons first _ ih => exact ⟨List.forall_mem_cons.mpr ⟨first.1, ih.1⟩, by simp [first.2, ih.2]⟩

theorem denotes_map {α : Type} {f : α → String} {g : α → Datum} {as : List α}
    (h : ∀ a ∈ as, Denotes defs (f a) (g a)) :
    Forall₂ (Denotes defs) (as.map f) (as.map g) := by
  induction as with
  | nil => exact .nil
  | cons a as ih =>
    obtain ⟨first, later⟩ := List.forall_mem_cons.mp h
    exact .cons first (ih later)

theorem blocks?_append {xs ys : List Statement} {lx ly : List Datum} {bx bs : List Block}
    (hx : blocks? defs xs = some (lx, bx)) (hy : blocks? defs ys = some (ly, bs))
    (joined : ly = [] ∨ bx = []) : blocks? defs (xs ++ ys) = some (lx ++ ly, bx ++ bs) := by
  induction xs generalizing lx bx with
  | nil =>
    obtain ⟨rfl, rfl⟩ : [] = lx ∧ [] = bx := by simpa [blocks?] using hx
    exact hy
  | cons s xs ih =>
    cases s with
    | nothing => exact ih hx joined
    | constant name value => exact ih hx joined
    | label name =>
      simp only [blocks?, bind, pure, Option.bind_eq_some_iff, Option.some.injEq,
        Prod.mk.injEq] at hx
      obtain ⟨⟨lead, bx⟩, laid, rfl, rfl⟩ := hx
      obtain rfl := joined.resolve_right (List.cons_ne_nil _ _)
      simp [blocks?, ih laid (.inl rfl)]
    | data operands =>
      simp only [blocks?, bind, pure, Option.bind_eq_some_iff, Option.some.injEq,
        Prod.mk.injEq] at hx
      obtain ⟨ds, read, ⟨lead, bx⟩, laid, rfl, rfl⟩ := hx
      simp [blocks?, read, ih laid joined]

structure Reads (defs : List (String × Int)) (ls : List Line) (lead : List Datum)
    (blocks : List Block) : Prop where
  readable : ∀ l ∈ ls, l.Readable
  noConstant : ∀ l ∈ ls, l.statement.constant? = none
  laid : blocks? defs (ls.map Line.statement) = some (lead, blocks)

namespace Reads
variable {ls first second : List Line} {lead more : List Datum} {blocks later : List Block}

theorem nil : Reads defs [] [] [] := ⟨by simp, by simp, rfl⟩

theorem pass {l : Line} (readable : l.Readable) (passed : l.statement = .nothing) :
    Reads defs [l] [] [] := by
  refine ⟨by simp [readable], by simp [passed, Statement.constant?], ?_⟩
  rw [List.map_singleton, passed]
  rfl

theorem blank : Reads defs [.blank] [] [] := pass trivial rfl

theorem label {name : String} {note : Option String} (atom : Atom name)
    (oneLine : ∀ text ∈ note, '\n' ∉ text.toList) (h : Reads defs ls lead blocks) :
    Reads defs (.label name note :: ls) [] (⟨name, lead⟩ :: blocks) := by
  refine ⟨List.forall_mem_cons.mpr ⟨⟨atom, oneLine⟩, h.readable⟩,
    List.forall_mem_cons.mpr ⟨rfl, h.noConstant⟩, ?_⟩
  simp [Line.statement, blocks?, h.laid]

theorem data {operands : List String} {ds : List Datum} {note : Option String}
    (some : operands ≠ []) (denoted : Forall₂ (Denotes defs) operands ds)
    (oneLine : ∀ text ∈ note, '\n' ∉ text.toList) :
    Reads defs [.data operands note] ds [] := by
  obtain ⟨atoms, read⟩ := mapM_of_denotes denoted
  refine ⟨List.forall_mem_singleton.mpr ⟨some, atoms, oneLine⟩,
    List.forall_mem_singleton.mpr rfl, ?_⟩
  simp [Line.statement, blocks?, read]

theorem append_data (h : Reads defs first lead []) (next : Reads defs second more later) :
    Reads defs (first ++ second) (lead ++ more) later := by
  refine ⟨List.forall_mem_append.mpr ⟨h.readable, next.readable⟩,
    List.forall_mem_append.mpr ⟨h.noConstant, next.noConstant⟩, ?_⟩
  rw [List.map_append]
  exact blocks?_append h.laid next.laid (.inr rfl)

theorem append (h : Reads defs first lead blocks) (next : Reads defs second [] later) :
    Reads defs (first ++ second) lead (blocks ++ later) := by
  refine ⟨List.forall_mem_append.mpr ⟨h.readable, next.readable⟩,
    List.forall_mem_append.mpr ⟨h.noConstant, next.noConstant⟩, ?_⟩
  have joined := blocks?_append h.laid next.laid (.inl rfl)
  rwa [List.append_nil, ← List.map_append] at joined

theorem flatten_blocks {α : Type} {as : List α} {f : Nat → α → List Line} {g : Nat → α → Block}
    (h : ∀ i a, as[i]? = some a → Reads defs (f i a) [] [g i a]) :
    Reads defs (as.mapIdx f).flatten [] (as.mapIdx g) := by
  induction as generalizing f g with
  | nil => exact nil
  | cons a as ih =>
    rw [List.mapIdx_cons, List.mapIdx_cons, List.flatten_cons]
    exact (h 0 a rfl).append (ih fun i b there => h (i + 1) b there)

theorem mapIdx_data {α : Type} {as : List α} {f : Nat → α → Line} {g : α → List Datum}
    (h : ∀ i, ∀ a ∈ as, Reads defs [f i a] (g a) []) :
    Reads defs (as.mapIdx f) (as.flatMap g) [] := by
  induction as generalizing f with
  | nil => exact nil
  | cons a as ih =>
    rw [List.mapIdx_cons, List.flatMap_cons]
    exact (h 0 a List.mem_cons_self).append_data
      (ih fun i b member => h (i + 1) b (List.mem_cons_of_mem a member))

theorem map_data {α : Type} {as : List α} {f : α → Line} {g : α → Datum}
    (h : ∀ a ∈ as, Reads defs [f a] [g a] []) : Reads defs (as.map f) (as.map g) [] := by
  induction as with
  | nil => exact nil
  | cons a as ih =>
    exact (h a List.mem_cons_self).append_data
      (ih fun b member => h b (List.mem_cons_of_mem a member))

theorem oneLine {operands : List String} {ds : List Datum}
    (denoted : Forall₂ (Denotes defs) operands ds) :
    Reads defs (oneLine operands) ds [] := by
  cases denoted with
  | nil => exact nil
  | cons first rest => exact data (List.cons_ne_nil _ _) (.cons first rest) (by simp)

theorem wrapped {perLine : Nat} (some : perLine ≠ 0) {operands : List String} {ds : List Datum}
    (denoted : Forall₂ (Denotes defs) operands ds) :
    Reads defs (wrapped perLine operands) ds [] := by
  unfold Listing.wrapped
  induction operands using rowsOf.induct perLine generalizing ds with
  | case1 operands ended =>
    obtain empty := ended.resolve_right some
    rw [List.isEmpty_iff] at empty
    subst empty
    cases denoted
    rw [rowsOf, if_pos (by simp)]
    exact nil
  | case2 operands going ih =>
    rw [rowsOf, if_neg going, List.map_cons, ← List.take_append_drop perLine ds]
    have row : operands.take perLine ≠ [] := by
      simp_all
    exact (data row (List.forall₂_take perLine denoted) (by simp)).append_data
      (ih (List.forall₂_drop perLine denoted))

theorem table {name : String} (atom : Atom name) (h : Reads defs ls lead []) :
    Reads defs (.label name none :: ls ++ [.blank]) [] [⟨name, lead⟩] :=
  (h.label atom (by simp)).append blank

end Reads

structure Line.Declares (l : Line) : Prop where
  readable : l.Readable
  said : l.statement = .nothing ∨ ∃ name value, l.statement = .constant name value

theorem Line.declares_constant {name value : String} (hn : Atom name) (hv : Atom value) :
    (constant name value).Declares :=
  ⟨⟨hn, hv⟩, .inr ⟨name, value, rfl⟩⟩

theorem Line.declares_blank : blank.Declares := ⟨trivial, .inl rfl⟩

theorem assemble?_of_reads {declarations ls : List Line} {blocks : List Block}
    (declared : ∀ l ∈ declarations, l.Declares)
    (defined : constants? (declarations.map Line.statement) = some defs)
    (h : Reads defs ls [] blocks) : assemble? (text (declarations ++ ls)) = some blocks := by
  have empty : blocks? defs (declarations.map Line.statement) = some ([], []) := by
    clear defined
    induction declarations with
    | nil => rfl
    | cons l declarations ih =>
      obtain ⟨first, later⟩ := List.forall_mem_cons.mp declared
      rw [List.map_cons]
      obtain said | ⟨name, value, said⟩ := first.said
      all_goals
        rw [said, blocks?]
        exact ih later
  have none : (ls.map Line.statement).filterMap Statement.constant? = [] := by
    simpa using h.noConstant
  have all : constants? ((declarations ++ ls).map Line.statement) = some defs := by
    rwa [List.map_append, constants?, List.filterMap_append, none, List.append_nil]
  have laid := blocks?_append empty h.laid (.inl rfl)
  rw [← List.map_append] at laid
  exact assemble?_text
    (List.forall_mem_append.mpr ⟨fun l member => (declared l member).readable, h.readable⟩) all laid

end TuneBank.Listing
