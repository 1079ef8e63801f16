/-! Tables without duplicates. Interning looks for a content and appends it when it is new, so
indices are handed out in the order of first requests and never change. -/

namespace TuneBank

structure Entry (κ ω : Type) where
  content : κ
  origin : ω
  deriving DecidableEq

structure Interned where
  index : Nat
  isNew : Bool
  deriving DecidableEq

def intern {κ ω : Type} [DecidableEq κ] (table : List (Entry κ ω)) (content : κ) (origin : ω) :
    List (Entry κ ω) × Interned :=
  match table.findIdx? (·.content = content) with
  | some i => (table, ⟨i, false⟩)
  | none => (table ++ [⟨content, origin⟩], ⟨table.length, true⟩)

section
variable {κ ω : Type} [DecidableEq κ] (table : List (Entry κ ω)) (content : κ) (origin : ω)

theorem prefix_intern : table <+: (intern table content origin).1 := by
  unfold intern
  split
  · exact List.prefix_refl table
  · exact List.prefix_append table _

theorem content_intern :
    ((intern table content origin).1[(intern table content origin).2.index]?).map Entry.content
      = some content := by
  unfold intern
  split
  · rename_i i found
    obtain ⟨bound, here, -⟩ := List.findIdx?_eq_some_iff_getElem.mp found
    rw [List.getElem?_eq_getElem bound]
    exact congrArg some (of_decide_eq_true here)
  · simp

theorem isNew_intern :
    (intern table content origin).2.isNew = true ↔ content ∉ table.map Entry.content := by
  unfold intern
  split
  · rename_i i found
    obtain ⟨bound, here, -⟩ := List.findIdx?_eq_some_iff_getElem.mp found
    have same : table[i].content = content := of_decide_eq_true here
    have member : content ∈ table.map Entry.content :=
      List.mem_map.mpr ⟨table[i], List.getElem_mem bound, same⟩
    simp [member]
  · rename_i none
    rw [List.findIdx?_eq_none_iff] at none
    simp only [true_iff, List.mem_map, not_exists, not_and]
    intro e member same
    have := none e member
    simp [same] at this

end

end TuneBank
