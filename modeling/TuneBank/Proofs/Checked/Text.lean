import Mathlib.Data.List.TakeWhile
import TuneBank.Proofs.Checked.Steps
import TuneBank.Proofs.Export.Invariant

/-! Texts by their bytes. A place in a text is the number of bytes before it, and a cut is allowed
only between two characters. The quoted part of a line is cut out at places where quotes were
found, so it is never cut wrongly. -/

namespace TuneBank.Checked

def bytes (cs : List Char) : List UInt8 := cs.flatMap String.utf8EncodeChar

def width : List Char → Nat
  | [] => 0
  | c :: cs => c.utf8Size + width cs

@[simp] theorem width_nil : width [] = 0 := rfl

@[simp] theorem width_cons (c : Char) (cs : List Char) :
    width (c :: cs) = c.utf8Size + width cs := rfl

@[simp] theorem width_append (cs ds : List Char) : width (cs ++ ds) = width cs + width ds := by
  induction cs with
  | nil => exact (Nat.zero_add _).symm
  | cons c cs ih => rw [List.cons_append, width_cons, ih, width_cons, Nat.add_assoc]

theorem length_bytes (cs : List Char) : (bytes cs).length = width cs := by
  induction cs with
  | nil => rfl
  | cons c cs ih =>
    rw [bytes, List.flatMap_cons, List.length_append, String.length_utf8EncodeChar]
    exact congrArg (c.utf8Size + ·) ih

/-- A text in two parts, the first of which has the given number of bytes. -/
def cut : Nat → List Char → Checked (List Char × List Char)
  | 0, cs => .ok ([], cs)
  | _, [] => .error .bounds
  | n, c :: cs =>
    if n < c.utf8Size then .error .boundary
    else do
      let (front, back) ← cut (n - c.utf8Size) cs
      return (c :: front, back)

theorem cut_zero (cs : List Char) : cut 0 cs = .ok ([], cs) := by
  cases cs <;> rfl

theorem cut_cons {n : Nat} (positive : 0 < n) (c : Char) (cs : List Char) :
    cut n (c :: cs) =
      if n < c.utf8Size then .error .boundary
      else cut (n - c.utf8Size) cs >>= fun parts => .ok (c :: parts.1, parts.2) := by
  obtain ⟨n, rfl⟩ := Nat.exists_eq_succ_of_ne_zero (Nat.ne_of_gt positive)
  rw [cut]
  · rfl
  · exact nofun

theorem cut_value (front back : List Char) :
    cut (width front) (front ++ back) = .ok (front, back) := by
  induction front with
  | nil => exact cut_zero back
  | cons c front ih =>
    have size := c.utf8Size_pos
    rw [List.cons_append, width_cons, cut_cons (by omega), if_neg (by omega),
      Nat.add_sub_cancel_left, ih]
    rfl

def find? (c : Char) : List Char → Option Nat
  | [] => none
  | d :: cs => if d = c then some 0 else (find? c cs).map (d.utf8Size + ·)

def findLast? (c : Char) : List Char → Option Nat
  | [] => none
  | d :: cs =>
    match findLast? c cs with
    | some n => some (d.utf8Size + n)
    | none => if d = c then some 0 else none

def between (cs : List Char) (start stop : Nat) : Checked (List Char) := do
  let (front, _) ← cut stop cs
  let (_, inner) ← cut start front
  return inner

def quoted (line : String) : Checked (Option String) :=
  match find? '"' line.toList, findLast? '"' line.toList with
  | some first, some last =>
    let start := first + '"'.utf8Size
    if start ≤ last then do
      let inner ← between line.toList start last
      return some (String.ofList inner)
    else .ok none
  | _, _ => .ok none

theorem between_value (front inner back : List Char) :
    between (front ++ inner ++ back) (width front) (width front + width inner) = .ok inner := by
  rw [between, ← width_append, cut_value, ok_bind]
  simp only [cut_value, ok_bind]
  rfl

theorem find?_quote {front : List Char} (noQuote : '"' ∉ front) (rest : List Char) :
    find? '"' (front ++ '"' :: rest) = some (width front) := by
  induction front with
  | nil => rfl
  | cons c front ih =>
    rw [List.mem_cons, not_or] at noQuote
    rw [List.cons_append, find?, if_neg (Ne.symm noQuote.1), ih noQuote.2, width_cons]
    rfl

theorem find?_none {cs : List Char} (noQuote : '"' ∉ cs) : find? '"' cs = none := by
  induction cs with
  | nil => rfl
  | cons c cs ih =>
    rw [List.mem_cons, not_or] at noQuote
    rw [find?, if_neg (Ne.symm noQuote.1), ih noQuote.2]
    rfl

theorem findLast?_quote (cs : List Char) :
    findLast? '"' cs = (Text.beforeLastQuote cs).map width := by
  induction cs with
  | nil => rfl
  | cons c cs ih =>
    rw [findLast?, ih, Text.beforeLastQuote]
    cases Text.beforeLastQuote cs with
    | none =>
      by_cases quote : c = '"'
      · simp [quote]
      · simp [quote]
    | some inner => simp

theorem beforeLastQuote_append_of_some {cs inner : List Char}
    (h : Text.beforeLastQuote cs = some inner) (front : List Char) :
    Text.beforeLastQuote (front ++ cs) = some (front ++ inner) := by
  induction front with
  | nil => exact h
  | cons c front ih => rw [List.cons_append, Text.beforeLastQuote, ih, List.cons_append]

theorem beforeLastQuote_quote_cons (cs : List Char) :
    Text.beforeLastQuote ('"' :: cs) = some ((Text.beforeLastQuote cs).elim [] ('"' :: ·)) := by
  rw [Text.beforeLastQuote]
  cases Text.beforeLastQuote cs <;> rfl

theorem quoted_value (line : String) : quoted line = .ok (Text.quoted? line) := by
  rw [quoted, findLast?_quote, Text.quoted?]
  have split := List.takeWhile_append_dropWhile (p := (· ≠ '"')) (l := line.toList)
  have noQuote : '"' ∉ line.toList.takeWhile (· ≠ '"') := fun member => by
    simpa using List.mem_takeWhile_imp member
  generalize line.toList.takeWhile (· ≠ '"') = front at split noQuote
  have head := List.head?_dropWhile_not (· ≠ '"') line.toList
  cases dropped : line.toList.dropWhile (· ≠ '"') with
  | nil =>
    rw [dropped, List.append_nil] at split
    rw [← split, find?_none noQuote]
  | cons c after =>
    rw [dropped] at head split
    obtain rfl : c = '"' := by simpa using head
    have one : '"'.utf8Size = 1 := by decide
    rw [← split, find?_quote noQuote, beforeLastQuote_append_of_some (beforeLastQuote_quote_cons _)]
    cases found : Text.beforeLastQuote after with
    | none =>
      simp only [found, Option.elim_none, Option.map_some, List.append_nil, one]
      rw [if_neg (by omega)]
      rfl
    | some inner =>
      obtain ⟨back, rfl⟩ := Text.prefix_of_beforeLastQuote found
      have inside : between (front ++ '"' :: (inner ++ back)) (width front + 1)
          (width front + (1 + width inner)) = .ok inner := by
        simpa [one, Nat.add_assoc] using between_value (front ++ ['"']) inner back
      simp only [found, Option.elim_some, Option.map_some, width_append, width_cons, one]
      rw [if_pos (by omega), inside]
      rfl

end TuneBank.Checked
