import Mathlib.Tactic.SplitIfs
import TuneBank.Text.Fields

/-! Texts that are put together from lines, lines from fields, and what is read back. A blank cuts a
line in two independent parts (`fieldsFrom_append_blank`), and so does a newline a text; everything
about spacing follows from these equations. -/

namespace TuneBank.Text

/-! Fields -/

theorem fieldsFrom_append_blank {c : Char} (blank : isBlank c = true)
    (field first second : List Char) :
    fieldsFrom field (first ++ c :: second)
      = fieldsFrom field first ++ fieldsFrom [] second := by
  induction first generalizing field with
  | nil =>
    rw [List.nil_append, fieldsFrom, fieldsFrom, if_pos blank]
    split_ifs <;> rfl
  | cons d first ih =>
    rw [List.cons_append, fieldsFrom, fieldsFrom]
    split_ifs
    · exact ih []
    · rw [ih [], List.cons_append]
    · exact ih _

structure Gap (cs : List Char) : Prop where
  ne_nil : cs ≠ []
  blank : ∀ c ∈ cs, isBlank c = true
  noNewline : '\n' ∉ cs

theorem fieldsFrom_blanks_append {cs : List Char} (blank : ∀ c ∈ cs, isBlank c = true)
    (rest : List Char) : fieldsFrom [] (cs ++ rest) = fieldsFrom [] rest := by
  induction cs with
  | nil => rfl
  | cons c cs ih =>
    have first := fieldsFrom_append_blank (blank c List.mem_cons_self) [] [] (cs ++ rest)
    rw [List.nil_append] at first
    rw [List.cons_append, first, ih fun d member => blank d (List.mem_cons_of_mem c member)]
    rfl

theorem Gap.fieldsFrom {gap : List Char} (h : Gap gap) (first rest : List Char) :
    fieldsFrom [] (first ++ gap ++ rest) = fieldsFrom [] first ++ fieldsFrom [] rest := by
  obtain ⟨c, cs, rfl⟩ := List.exists_cons_of_ne_nil h.ne_nil
  rw [List.append_assoc, List.cons_append, fieldsFrom_append_blank (h.blank c List.mem_cons_self),
    fieldsFrom_blanks_append fun d member => h.blank d (List.mem_cons_of_mem c member)]

structure Word (s : String) : Prop where
  ne_nil : s.toList ≠ []
  solid : ∀ c ∈ s.toList, isBlank c = false
  noQuote : '"' ∉ s.toList

theorem fieldsFrom_solid (field cs : List Char) (solid : ∀ c ∈ cs, isBlank c = false) :
    fieldsFrom field cs
      = if field = [] ∧ cs = [] then [] else [String.ofList (field.reverse ++ cs)] := by
  induction cs generalizing field with
  | nil => cases field <;> simp [fieldsFrom]
  | cons c cs ih =>
    rw [fieldsFrom, if_neg (by simp [solid c List.mem_cons_self]),
      ih _ fun d member => solid d (List.mem_cons_of_mem c member)]
    simp

theorem Word.fieldsFrom {s : String} (h : Word s) : fieldsFrom [] s.toList = [s] := by
  rw [fieldsFrom_solid [] s.toList h.solid, if_neg fun none => h.ne_nil none.2]
  simp

inductive Spaced : List String → List Char → Prop
  | last (field : String) : Spaced [field] field.toList
  | cons (field : String) {gap : List Char} {fields : List String} {rest : List Char}
    (h : Gap gap) (later : Spaced fields rest) :
    Spaced (field :: fields) (field.toList ++ gap ++ rest)

theorem Spaced.fieldsFrom {fs : List String} {cs : List Char} (h : Spaced fs cs)
    (words : ∀ f ∈ fs, Word f) : fieldsFrom [] cs = fs := by
  induction h with
  | last field => exact (words field List.mem_cons_self).fieldsFrom
  | cons field gap _ ih =>
    rw [gap.fieldsFrom, (words field List.mem_cons_self).fieldsFrom,
      ih fun f member => words f (List.mem_cons_of_mem field member)]
    rfl

theorem Spaced.forall {P : Char → Prop} {fs : List String} {cs : List Char} (h : Spaced fs cs)
    (fields : ∀ f ∈ fs, ∀ c ∈ f.toList, P c) (gaps : ∀ c, isBlank c = true → c ≠ '\n' → P c) :
    ∀ c ∈ cs, P c := by
  induction h with
  | last field => exact fields field List.mem_cons_self
  | cons field gap _ ih =>
    intro c member
    rcases List.mem_append.mp member with front | later
    · rcases List.mem_append.mp front with own | between
      · exact fields field List.mem_cons_self c own
      · exact gaps c (gap.blank c between) fun same => gap.noNewline (same ▸ between)
    · exact ih (fun f there => fields f (List.mem_cons_of_mem field there)) c later

theorem Spaced.getLast? {fs : List String} {cs : List Char} (h : Spaced fs cs)
    (words : ∀ f ∈ fs, Word f) : ∃ c, cs.getLast? = some c ∧ isBlank c = false := by
  induction h with
  | last field =>
    have word := words field List.mem_cons_self
    have last := List.getLast?_eq_some_getLast word.ne_nil
    exact ⟨_, last, word.solid _ (List.getLast_mem word.ne_nil)⟩
  | cons field gap later ih =>
    obtain ⟨c, last, solid⟩ := ih fun f member => words f (List.mem_cons_of_mem field member)
    exact ⟨c, by rw [List.getLast?_append, last]; rfl, solid⟩

theorem flatMap_fieldsFrom (field cs : List Char) :
    (fieldsFrom field cs).flatMap String.toList = field.reverse ++ cs.filter (!isBlank ·) := by
  induction cs generalizing field with
  | nil => cases field <;> simp [fieldsFrom]
  | cons c cs ih =>
    rw [fieldsFrom]
    split_ifs with blank started
    · simp [ih, blank, List.isEmpty_iff.mp started]
    · simp [ih, blank]
    · simp [ih, blank]

/-! Lines -/

theorem linesFrom_append_newline (line first rest : List Char) (noNewline : '\n' ∉ first) :
    linesFrom line (first ++ '\n' :: rest)
      = closeLine (first.reverse ++ line) :: linesFrom [] rest := by
  induction first generalizing line with
  | nil => rfl
  | cons c first ih =>
    rw [List.mem_cons, not_or] at noNewline
    rw [List.cons_append, linesFrom, if_neg (Ne.symm noNewline.1), ih _ noNewline.2]
    simp

theorem closeLine_reverse {cs : List Char} (h : cs.getLast? ≠ some '\r') :
    closeLine cs.reverse = String.ofList cs := by
  rw [closeLine.eq_def]
  split
  · rename_i rest same
    have last : cs = rest.reverse ++ ['\r'] := by
      rw [← List.reverse_reverse cs, same, List.reverse_cons]
    exact absurd (by rw [last]; simp) h
  · rw [List.reverse_reverse]

structure Unbroken (line : String) : Prop where
  noNewline : '\n' ∉ line.toList
  noReturn : line.toList.getLast? ≠ some '\r'

theorem toList_unlines_cons (line : String) (ls : List String) :
    (unlines (line :: ls)).toList = line.toList ++ '\n' :: (unlines ls).toList := by
  simp [unlines, String.join_cons]

theorem lines_unlines_append_eq {ls : List String} (h : ∀ l ∈ ls, '\n' ∉ l.toList)
    (rest : String) :
    lines (unlines ls ++ rest) = ls.map (fun l => closeLine l.toList.reverse) ++ lines rest := by
  simp only [lines, String.toList_append]
  induction ls with
  | nil => rfl
  | cons line ls ih =>
    rw [toList_unlines_cons, List.append_assoc, List.cons_append,
      linesFrom_append_newline [] _ _ (h line List.mem_cons_self), List.append_nil,
      ih fun l member => h l (List.mem_cons_of_mem line member), List.map_cons, List.cons_append]

theorem lines_unlines_eq {ls : List String} (h : ∀ l ∈ ls, '\n' ∉ l.toList) :
    lines (unlines ls) = ls.map fun l => closeLine l.toList.reverse := by
  have whole := lines_unlines_append_eq h ""
  rwa [String.append_empty, show lines "" = [] from rfl, List.append_nil] at whole

theorem lines_unlines_append {ls : List String} (h : ∀ l ∈ ls, Unbroken l) (rest : String) :
    lines (unlines ls ++ rest) = ls ++ lines rest := by
  rw [lines_unlines_append_eq fun l member => (h l member).noNewline]
  congr 1
  refine (List.map_congr_left fun l member => ?_).trans (List.map_id ls)
  rw [closeLine_reverse (h l member).noReturn, String.ofList_toList, id_eq]

theorem lines_unlines {ls : List String} (h : ∀ l ∈ ls, Unbroken l) : lines (unlines ls) = ls := by
  have whole := lines_unlines_append h ""
  rwa [String.append_empty, show lines "" = [] from rfl, List.append_nil] at whole

/-! Quoted text -/

theorem beforeLastQuote_append (inner : List Char) :
    beforeLastQuote (inner ++ ['"']) = some inner := by
  induction inner with
  | nil => rfl
  | cons c inner ih => rw [List.cons_append, beforeLastQuote, ih]

theorem quoted?_append {line : String} {front : List Char} {text : String}
    (noQuote : '"' ∉ front) (h : line.toList = front ++ '"' :: (text.toList ++ ['"'])) :
    quoted? line = some text := by
  have dropped : line.toList.dropWhile (· ≠ '"') = '"' :: (text.toList ++ ['"']) := by
    rw [h, List.dropWhile_append_of_pos]
    · rfl
    · intro c member
      exact decide_eq_true fun same => noQuote (same ▸ member)
  rw [quoted?, dropped]
  simp only [beforeLastQuote_append, Option.map_some, String.ofList_toList]

/-! Marks -/

section
variable {α : Type} [DecidableEq α] {mark : α} {piece : List α}

theorem splitAtMark_ne_nil (as : List α) : splitAtMark mark as ≠ [] := by
  cases as with
  | nil => exact List.cons_ne_nil _ _
  | cons a as =>
    rw [splitAtMark]
    split
    · exact List.cons_ne_nil _ _
    · split_ifs <;> exact List.cons_ne_nil _ _

theorem splitAtMark_mark_cons (rest : List α) :
    splitAtMark mark (mark :: rest) = [] :: splitAtMark mark rest := by
  rw [splitAtMark]
  cases pieces : splitAtMark mark rest with
  | nil => exact absurd pieces (splitAtMark_ne_nil rest)
  | cons piece pieces => exact if_pos rfl

theorem splitAtMark_cons_of_ne {a : α} (other : a ≠ mark) {rest : List α} {pieces : List (List α)}
    (h : splitAtMark mark rest = piece :: pieces) :
    splitAtMark mark (a :: rest) = (a :: piece) :: pieces := by
  rw [splitAtMark, h]
  exact if_neg other

theorem splitAtMark_append (free : mark ∉ piece) (rest : List α) :
    splitAtMark mark (piece ++ mark :: rest) = piece :: splitAtMark mark rest := by
  induction piece with
  | nil => exact splitAtMark_mark_cons rest
  | cons a piece ih =>
    rw [List.mem_cons, not_or] at free
    exact splitAtMark_cons_of_ne (Ne.symm free.1) (ih free.2)

theorem splitAtMark_of_free (free : mark ∉ piece) : splitAtMark mark piece = [piece] := by
  induction piece with
  | nil => rfl
  | cons a piece ih =>
    rw [List.mem_cons, not_or] at free
    exact splitAtMark_cons_of_ne (Ne.symm free.1) (ih free.2)

end

end TuneBank.Text
