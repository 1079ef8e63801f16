import Mathlib.Data.List.Basic
import TuneBank.Proofs.Export.Attribution

/-! The last writer among lines. Every line is looked at together with the lines above it, and of
what all of them write to one place the last stays. `Lists` says the same of a list that is written
at numbers in any order and filled up where nothing was written. -/

namespace TuneBank.Export
variable {α : Type}

/-- What the last of the lines that write something writes. -/
def lastWritten (writes : List String → String → Option α) (lines : List String) : Option α :=
  ((List.range lines.length).filterMap fun i => lines[i]?.bind (writes (lines.take i))).getLast?

theorem lastWritten_snoc (writes : List String → String → Option α) (above : List String)
    (line : String) : lastWritten writes (above ++ [line])
      = (writes above line).or (lastWritten writes above) := by
  have before : ∀ i ∈ List.range above.length,
      ((above ++ [line])[i]?.bind (writes ((above ++ [line]).take i)))
        = above[i]?.bind (writes (above.take i)) := by
    intro i member
    have inside := List.mem_range.mp member
    rw [List.getElem?_append_left inside,
      List.take_append_of_le_length (Nat.le_of_lt inside)]
  rw [lastWritten, List.length_append, List.length_singleton, List.range_succ,
    List.filterMap_append, List.filterMap_congr before, List.getLast?_append]
  simp only [List.filterMap_cons, List.filterMap_nil, List.getElem?_concat_length, Option.bind_some,
    List.take_left]
  cases writes above line <;> rfl

theorem lastWritten_congr {f g : List String → String → Option α} {lines : List String}
    (agree : ∀ above line, above ++ [line] <+: lines → f above line = g above line) :
    lastWritten f lines = lastWritten g lines := by
  induction lines using List.reverseRecOn with
  | nil => rfl
  | append_singleton above line ih =>
    rw [lastWritten_snoc, lastWritten_snoc, agree above line (List.prefix_refl _),
      ih fun before l early => agree before l (early.trans (List.prefix_append _ _))]

theorem isSome_lastWritten_iff (own : String → Option α) (lines : List String) :
    (lastWritten (fun _ => own) lines).isSome ↔ ∃ line ∈ lines, (own line).isSome := by
  induction lines using List.reverseRecOn with
  | nil => simp [lastWritten]
  | append_singleton above line ih =>
    rw [lastWritten_snoc, Option.isSome_or, Bool.or_eq_true, ih]
    simp [or_and_right, exists_or, or_comm]

section
variable (is : RecordKind → String → Bool)

/-- What is written in the section of one track. -/
def inSection (track : Nat) (writes : List String → String → Option α) (above : List String)
    (line : String) : Option α :=
  if above.countP (is .trackHeader) = track then writes above line else none

/-- What the header writes that opens the section of one track. -/
def atOpening (track : Nat) (writes : List String → String → Option α) (above : List String)
    (line : String) : Option α :=
  if above.countP (is .trackHeader) + 1 = track then writes above line else none

/-- What is written below the selection of one slot. -/
def inSlot (slot : UInt8) (writes : List String → String → Option α) (above : List String)
    (line : String) : Option α :=
  if selection? is above = some slot then writes above line else none

theorem lastWritten_inSection_eq_none {track : Nat} (writes : List String → String → Option α)
    {lines : List String} (before : lines.countP (is .trackHeader) < track) :
    lastWritten (inSection is track writes) lines = none := by
  induction lines using List.reverseRecOn with
  | nil => rfl
  | append_singleton above line ih =>
    rw [List.countP_append] at before
    rw [lastWritten_snoc, ih (by omega), inSection, if_neg (by omega)]
    rfl

end

def writesAt (writes : List String → String → Option (Nat × α)) (i : Nat) (above : List String)
    (line : String) : Option α :=
  ((writes above line).filter (·.1 = i)).map (·.2)

/-- At every number the list holds what was written there last. Below the highest number that was
written, a number that never was holds the filler. -/
def Lists (filler : α) (writes : List String → String → Option (Nat × α)) (lines : List String)
    (l : List α) : Prop :=
  ∀ i a, l[i]? = some a ↔
    lastWritten (writesAt writes i) lines = some a
      ∨ lastWritten (writesAt writes i) lines = none ∧ a = filler
        ∧ ∃ j, i < j ∧ (lastWritten (writesAt writes j) lines).isSome

namespace Lists
variable {filler : α} {writes other : List String → String → Option (Nat × α)}
  {above lines : List String} {line : String} {l : List α}

theorem nil : Lists filler writes [] [] := by
  simp [Lists, lastWritten]

theorem length (h : Lists filler writes lines l) (i : Nat) :
    i < l.length ↔ ∃ j, i ≤ j ∧ (lastWritten (writesAt writes j) lines).isSome := by
  constructor
  · intro inside
    rcases (h i l[i]).mp (List.getElem?_eq_getElem inside) with here | ⟨-, -, j, above, later⟩
    · exact ⟨i, Nat.le_refl i, Option.isSome_of_eq_some here⟩
    · exact ⟨j, Nat.le_of_lt above, later⟩
  · rintro ⟨j, reached, later⟩
    obtain ⟨a, there⟩ := Option.isSome_iff_exists.mp later
    obtain ⟨inside, -⟩ := List.getElem?_eq_some_iff.mp ((h j a).mpr (.inl there))
    exact Nat.lt_of_le_of_lt reached inside

theorem lt_length_iff {own : String → Option (Nat × α)} (h : Lists filler (fun _ => own) lines l)
    (i : Nat) : i < l.length ↔ ∃ line ∈ lines, ∃ entry ∈ own line, i ≤ entry.1 := by
  have each (j : Nat) : (lastWritten (writesAt (fun _ => own) j) lines).isSome
      ↔ ∃ line ∈ lines, ∃ entry ∈ own line, entry.1 = j := by
    refine (isSome_lastWritten_iff _ lines).trans (exists_congr fun line => and_congr_right' ?_)
    cases own line <;> simp [Option.filter_some]
  rw [h.length i]
  simp only [each]
  constructor
  · rintro ⟨_, reached, line, there, entry, written, rfl⟩
    exact ⟨line, there, entry, written, reached⟩
  · rintro ⟨line, there, entry, written, reached⟩
    exact ⟨entry.1, reached, line, there, entry, written, rfl⟩

theorem pass (h : Lists filler writes above l) (silent : writes above line = none) :
    Lists filler writes (above ++ [line]) l := by
  have same (i : Nat) : lastWritten (writesAt writes i) (above ++ [line])
      = lastWritten (writesAt writes i) above := by
    rw [lastWritten_snoc, writesAt, silent]
    rfl
  simpa only [Lists, same] using h

theorem set (h : Lists filler writes above l) {i : Nat} {a : α}
    (wrote : writes above line = some (i, a)) :
    Lists filler writes (above ++ [line]) (setGrowing filler l i a) := by
  have here : lastWritten (writesAt writes i) (above ++ [line]) = some a := by
    simp [lastWritten_snoc, writesAt, wrote, Option.filter_some]
  have elsewhere {j : Nat} (other : j ≠ i) : lastWritten (writesAt writes j) (above ++ [line])
      = lastWritten (writesAt writes j) above := by
    simp [lastWritten_snoc, writesAt, wrote, Option.filter_some, Ne.symm other]
  intro j b
  have later : (∃ k, j < k ∧ (lastWritten (writesAt writes k) (above ++ [line])).isSome)
      ↔ j < i ∨ ∃ k, j < k ∧ (lastWritten (writesAt writes k) above).isSome := by
    constructor
    · rintro ⟨k, reached, some⟩
      by_cases last : k = i
      · exact .inl (last ▸ reached)
      · exact .inr ⟨k, reached, elsewhere last ▸ some⟩
    · rintro (reached | ⟨k, reached, some⟩)
      · exact ⟨i, reached, Option.isSome_of_eq_some here⟩
      · by_cases last : k = i
        · exact ⟨i, last ▸ reached, Option.isSome_of_eq_some here⟩
        · exact ⟨k, reached, (elsewhere last).symm ▸ some⟩
  rw [getElem?_setGrowing, later]
  by_cases same : j = i
  · subst same
    simp [here]
  · rw [if_neg same, elsewhere same]
    split_ifs with inside below
    · rw [h j b]
      refine or_congr_right (and_congr_right fun none => and_congr_right fun _ => ?_)
      obtain ⟨k, reached, some⟩ := (h.length j).mp inside
      have apart : j ≠ k := fun same => by simp [← same, none] at some
      exact iff_of_true ⟨k, by omega, some⟩ (.inr ⟨k, by omega, some⟩)
    all_goals
      have unwritten : ∀ k, j ≤ k → lastWritten (writesAt writes k) above = none := fun k reached =>
        Option.not_isSome_iff_eq_none.mp fun some => inside ((h.length j).mpr ⟨k, reached, some⟩)
      have none := unwritten j (Nat.le_refl j)
    · simpa [none, below] using eq_comm
    · have gone : ¬ ∃ k, j < k ∧ (lastWritten (writesAt writes k) above).isSome := by
        rintro ⟨k, reached, some⟩
        simp [unwritten k (Nat.le_of_lt reached)] at some
      simp [none, below, gone]

theorem snoc (h : Lists filler writes above l) (line : String) :
    Lists filler writes (above ++ [line])
      ((writes above line).elim l fun entry => setGrowing filler l entry.1 entry.2) := by
  cases wrote : writes above line with
  | none => exact h.pass wrote
  | some entry => exact h.set wrote

theorem congr (h : Lists filler writes lines l)
    (agree : ∀ above line, above ++ [line] <+: lines → writes above line = other above line) :
    Lists filler other lines l := by
  have same (i : Nat) : lastWritten (writesAt writes i) lines
      = lastWritten (writesAt other i) lines :=
    lastWritten_congr fun above line early => by rw [writesAt, agree above line early, writesAt]
  simpa only [Lists, same] using h

end Lists

end TuneBank.Export
