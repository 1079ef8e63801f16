import TuneBank.Pool.Table

/-! Tables under many requests. A run of requests only appends to a table, keeps its contents
distinct, holds afterwards what it held before and what was requested, and answers each request
with the place of its content. -/

namespace TuneBank
variable {κ ω : Type}

def contents (table : List (Entry κ ω)) : List κ := table.map Entry.content

def content? (table : List (Entry κ ω)) (i : Nat) : Option κ := table[i]?.map Entry.content

@[simp] theorem length_contents (table : List (Entry κ ω)) :
    (contents table).length = table.length := List.length_map _

theorem content?_eq (table : List (Entry κ ω)) (i : Nat) :
    content? table i = (contents table)[i]? :=
  List.getElem?_map.symm

theorem mem_contents_of_content? {table : List (Entry κ ω)} {i : Nat} {c : κ}
    (h : content? table i = some c) : c ∈ contents table :=
  List.mem_of_getElem? ((content?_eq table i).symm.trans h)

theorem content?_of_prefix {table longer : List (Entry κ ω)} (h : table <+: longer) {i : Nat}
    {c : κ} (here : content? table i = some c) : content? longer i = some c := by
  obtain ⟨entry, found, rfl⟩ := Option.map_eq_some_iff.mp here
  obtain ⟨bound, rfl⟩ := List.getElem?_eq_some_iff.mp found
  rw [content?, List.prefix_iff_getElem?.mp h i bound, Option.map_some]

theorem map_eq_map_some_of_imp {α β γ : Type} {f g : α → Option β}
    (h : ∀ a b, f a = some b → g a = some b) {as : List α} {cs : List γ} {content : γ → β}
    (here : as.map f = cs.map fun c => some (content c)) :
    as.map g = cs.map fun c => some (content c) := by
  rw [← here]
  refine List.map_congr_left fun a member => ?_
  obtain ⟨c, -, found⟩ := List.mem_map.mp (here ▸ List.mem_map_of_mem member)
  rw [← found]
  exact h a _ found.symm

theorem mem_contents_of_prefix {table longer : List (Entry κ ω)} (h : table <+: longer) {c : κ}
    (here : c ∈ contents table) : c ∈ contents longer := by
  obtain ⟨entry, there, rfl⟩ := List.mem_map.mp here
  exact List.mem_map_of_mem (h.subset there)

theorem content?_inj {table : List (Entry κ ω)} (distinct : (contents table).Nodup) {i j : Nat}
    {c : κ} (hi : content? table i = some c) (hj : content? table j = some c) : i = j := by
  rw [content?_eq] at hi hj
  obtain ⟨bound, -⟩ := List.getElem?_eq_some_iff.mp hi
  exact (List.getElem?_inj bound distinct).mp (hi.trans hj.symm)

section
variable [DecidableEq κ] (table : List (Entry κ ω)) (content : κ) (origin : ω)

theorem table_intern : (intern table content origin).1 =
    if content ∈ contents table then table else table ++ [⟨content, origin⟩] := by
  have isNew : _ ↔ content ∉ contents table := isNew_intern table content origin
  unfold intern at isNew ⊢
  split at isNew
  · rw [if_pos (Decidable.not_not.mp fun new => Bool.false_ne_true (isNew.mpr new))]
  · rw [if_neg (isNew.mp rfl)]

theorem contents_intern : contents (intern table content origin).1 =
    if content ∈ contents table then contents table else contents table ++ [content] := by
  rw [table_intern]
  split
  · rfl
  · exact List.map_append

theorem mem_contents_intern {c : κ} :
    c ∈ contents (intern table content origin).1 ↔ c ∈ contents table ∨ c = content := by
  rw [contents_intern]
  split
  · rename_i old
    exact ⟨Or.inl, fun h => h.elim id fun same => same ▸ old⟩
  · rw [List.mem_append, List.mem_singleton]

theorem nodup_intern (h : (contents table).Nodup) :
    (contents (intern table content origin).1).Nodup := by
  rw [contents_intern]
  split
  · exact h
  · rename_i new
    refine List.nodup_append.mpr ⟨h, List.pairwise_singleton _ _, fun a old b last same => new ?_⟩
    rw [← List.mem_singleton.mp last, ← same]
    exact old

end

variable [DecidableEq κ]

def internAll : List (Entry κ ω) → List (κ × ω) → List (Entry κ ω) × List Interned
  | table, [] => (table, [])
  | table, (content, origin) :: requests =>
    let (table, interned) := intern table content origin
    let (table, rest) := internAll table requests
    (table, interned :: rest)

theorem internAll_cons (table : List (Entry κ ω)) (request : κ × ω) (requests : List (κ × ω)) :
    internAll table (request :: requests) =
      ((internAll (intern table request.1 request.2).1 requests).1,
        (intern table request.1 request.2).2
          :: (internAll (intern table request.1 request.2).1 requests).2) := rfl

theorem prefix_internAll (table : List (Entry κ ω)) (requests : List (κ × ω)) :
    table <+: (internAll table requests).1 := by
  induction requests generalizing table with
  | nil => exact List.prefix_refl table
  | cons request requests ih =>
    exact (prefix_intern table request.1 request.2).trans (ih _)

theorem mem_contents_internAll (table : List (Entry κ ω)) (requests : List (κ × ω)) {c : κ} :
    c ∈ contents (internAll table requests).1 ↔ c ∈ contents table ∨ c ∈ requests.map Prod.fst := by
  induction requests generalizing table with
  | nil => simp [internAll]
  | cons request requests ih =>
    rw [internAll_cons, ih, mem_contents_intern, List.map_cons, List.mem_cons, or_assoc]

theorem mem_internAll {table : List (Entry κ ω)} {requests : List (κ × ω)} {e : Entry κ ω}
    (member : e ∈ (internAll table requests).1) : e ∈ table ∨ (e.content, e.origin) ∈ requests := by
  induction requests generalizing table with
  | nil => exact .inl member
  | cons request requests ih =>
    rw [internAll_cons] at member
    rcases ih member with old | later
    · rw [table_intern] at old
      split at old
      · exact .inl old
      · rcases List.mem_append.mp old with old | new
        · exact .inl old
        · rw [List.mem_singleton.mp new]
          exact .inr List.mem_cons_self
    · exact .inr (List.mem_cons_of_mem request later)

theorem nodup_internAll {table : List (Entry κ ω)} (h : (contents table).Nodup)
    (requests : List (κ × ω)) : (contents (internAll table requests).1).Nodup := by
  induction requests generalizing table with
  | nil => exact h
  | cons request requests ih => exact ih (nodup_intern _ _ _ h)

theorem content?_internAll (table : List (Entry κ ω)) (requests : List (κ × ω)) :
    ((internAll table requests).2.map Interned.index).map (content? (internAll table requests).1)
      = (requests.map Prod.fst).map some := by
  induction requests generalizing table with
  | nil => rfl
  | cons request requests ih =>
    simp only [internAll_cons, List.map_cons, ih]
    congr 1
    exact content?_of_prefix (prefix_internAll _ _) (content_intern table request.1 request.2)

theorem internAll_append (table : List (Entry κ ω)) (first second : List (κ × ω)) :
    internAll table (first ++ second) =
      ((internAll (internAll table first).1 second).1,
        (internAll table first).2 ++ (internAll (internAll table first).1 second).2) := by
  induction first generalizing table with
  | nil => rfl
  | cons request first ih =>
    rw [List.cons_append, internAll_cons, ih]
    rfl

end TuneBank
