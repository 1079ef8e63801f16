import TuneBank.Proofs.Text.Symbol

/-! A whole list of titles and the symbols they get in turn. What was handed out only grows, and a
renamed title joins it like any other, so a title sees all that the titles before it got. -/

namespace TuneBank.Title

/-! A symbol is its own symbol -/

theorem capital_of_isSymbolChar {c : Char} (h : isSymbolChar c) : Text.capital c = [c] := by
  have upper : ¬ 'a' ≤ c := by
    simp only [isSymbolChar, isCapital, isDigit, Bool.or_eq_true, Bool.and_eq_true,
      decide_eq_true_eq] at h
    intro lower
    rcases h with (capital | digit) | rfl
    · exact absurd (Nat.le_trans lower capital.2) (by decide : ¬ 'a'.toNat ≤ 'Z'.toNat)
    · exact absurd (Nat.le_trans lower digit.2) (by decide : ¬ 'a'.toNat ≤ '9'.toNat)
    · exact absurd lower (by decide)
  rw [Text.capital, if_neg fun lower => upper lower.1, if_pos (toNat_lt_of_isSymbolChar h)]

theorem upperCase_of_chars {s : String} (chars : ∀ c ∈ s.toList, isSymbolChar c) :
    Text.upperCase s = s := by
  have same : s.toList.flatMap Text.capital = s.toList := by
    rw [List.flatMap_congr fun c member => capital_of_isSymbolChar (chars c member)]
    exact List.flatMap_singleton' _
  rw [Text.upperCase, same, String.ofList_toList]

theorem symbolChar_of_isSymbolChar {c : Char} (h : isSymbolChar c) : symbolChar c = c :=
  if_pos h

theorem guardStart_of_letter {c : Char} (letter : isDigit c = false) (cs : List Char) :
    guardStart (c :: cs) = c :: cs :=
  if_neg (Bool.eq_false_iff.mp letter)

theorem Symbol.sanitize_eq {s : String} (h : Symbol s) : sanitize s = s := by
  have same : s.toList.map symbolChar = s.toList := by
    rw [List.map_congr_left fun c member => symbolChar_of_isSymbolChar (h.chars c member),
      List.map_id']
  obtain ⟨c, cs, first, letter⟩ := h.start
  rw [sanitize, upperCase_of_chars h.chars, same, first, guardStart_of_letter letter, ← first,
    String.ofList_toList]

theorem sanitize_sanitize (title : String) : sanitize (sanitize title) = sanitize title :=
  (symbol_sanitize title).sanitize_eq

/-! The search for a free name -/

/-- The search as a loop: as long as the name is taken, it gets one more underscore. -/
inductive Renaming (taken : List String) : String → String → Prop where
  | free {name : String} (unused : name ∉ taken) : Renaming taken name name
  | again {name ident : String} (used : name ∈ taken)
      (rest : Renaming taken (name.push '_') ident) : Renaming taken name ident

theorem Renaming.unique {taken : List String} {name ident other : String}
    (h : Renaming taken name ident) (h' : Renaming taken name other) : ident = other := by
  induction h with
  | free unused =>
    cases h' with
    | free => rfl
    | again used => exact absurd used unused
  | again used _ ih =>
    cases h' with
    | free unused => exact absurd used unused
    | again _ rest => exact ih rest

theorem withUnderscores_zero (name : String) : withUnderscores name 0 = name := by
  simp [withUnderscores]

theorem withUnderscores_push (name : String) (n : Nat) :
    withUnderscores (name.push '_') n = withUnderscores name (n + 1) := by
  apply String.toList_inj.mp
  simp [withUnderscores, List.replicate_succ]

theorem renaming_withUnderscores {taken : List String} {name : String} {n : Nat}
    (before : ∀ k < n, withUnderscores name k ∈ taken)
    (unused : withUnderscores name n ∉ taken) : Renaming taken name (withUnderscores name n) := by
  induction n generalizing name with
  | zero =>
    rw [withUnderscores_zero] at unused ⊢
    exact .free unused
  | succ n ih =>
    have used : name ∈ taken := withUnderscores_zero name ▸ before 0 (Nat.zero_lt_succ n)
    rw [← withUnderscores_push] at unused ⊢
    refine .again used (ih (fun k small => ?_) unused)
    rw [withUnderscores_push]
    exact before (k + 1) (Nat.succ_lt_succ small)

theorem firstFree_least (taken : List String) (name : String) :
    ∃ n ≤ taken.length, firstFree taken name = withUnderscores name n
      ∧ ∀ k < n, withUnderscores name k ∈ taken := by
  have unused := firstFree_not_mem taken name
  unfold firstFree at unused ⊢
  simp only at unused ⊢
  cases found : (List.range (taken.length + 1)).find?
      fun n => !taken.contains (withUnderscores name n) with
  | some n =>
    obtain ⟨-, small, before⟩ := List.find?_range_eq_some.mp found
    exact ⟨n, Nat.le_of_lt_succ (List.mem_range.mp small), rfl, by simpa using before⟩
  | none =>
    have all : ∀ n < taken.length + 1, withUnderscores name n ∈ taken := by
      simpa using List.find?_eq_none.mp found
    rw [found] at unused
    exact absurd (all 0 (Nat.zero_lt_succ _)) unused

theorem renaming_iff {taken : List String} {name ident : String} :
    Renaming taken name ident ↔ ident = firstFree taken name := by
  obtain ⟨n, -, least, before⟩ := firstFree_least taken name
  have unused := firstFree_not_mem taken name
  have reached : Renaming taken name (firstFree taken name) := by
    rw [least] at unused ⊢
    exact renaming_withUnderscores before unused
  exact ⟨fun h => h.unique reached, fun same => same ▸ reached⟩

/-! What a title is due -/

/-- The name that a title gets when its own symbol is taken, before any underscores. -/
def numbered (title : String) (index : Nat) : String :=
  sanitize title ++ "_" ++ Text.decimal index

def sanitized (title : String) : List TitleWarning :=
  if sanitize title ≠ Text.upperCase title then [.sanitized title (sanitize title)] else []

/-- What a title is due after some names: its own symbol, or if that is taken the numbered one with
the fewest underscores that make it new, and a warning for each change, with the names at hand. -/
structure Due (taken : List String) (title : String) (index : Nat) (ident : String)
    (warnings : List TitleWarning) : Prop where
  unused : ident ∉ taken
  own : sanitize title ∉ taken → ident = sanitize title
  renamed : sanitize title ∈ taken → Renaming taken (numbered title index) ident
    ∧ ∃ n ≤ taken.length, ident = withUnderscores (numbered title index) n
      ∧ ∀ k < n, withUnderscores (numbered title index) k ∈ taken
  warned : warnings
    = sanitized title ++ if ident ≠ sanitize title then [.duplicate (sanitize title) ident] else []

theorem assign_of_mem {taken : List String} {title : String} (used : sanitize title ∈ taken)
    (index : Nat) :
    let renamed := firstFree taken (numbered title index)
    assign taken title index
      = (renamed, sanitized title ++ [.duplicate (sanitize title) renamed]) := by
  simp only [assign, sanitized, numbered, List.contains_iff_mem.mpr used, if_true, ite_not]

theorem assign_of_not_mem {taken : List String} {title : String} (free : sanitize title ∉ taken)
    (index : Nat) : assign taken title index = (sanitize title, sanitized title) := by
  have missing : ¬ taken.contains (sanitize title) := fun used =>
    free (List.contains_iff_mem.mp used)
  simp only [assign, sanitized, if_neg missing, ite_not]

theorem due_assign (taken : List String) (title : String) (index : Nat) :
    Due taken title index (assign taken title index).1 (assign taken title index).2 := by
  have unused := assign_not_mem taken title index
  by_cases used : sanitize title ∈ taken
  · rw [assign_of_mem used] at unused ⊢
    have other : firstFree taken (numbered title index) ≠ sanitize title := fun same =>
      firstFree_not_mem taken (numbered title index) (same.symm ▸ used)
    exact
      { unused
        own := fun free => absurd used free
        renamed := fun _ => ⟨renaming_iff.mpr rfl, firstFree_least taken (numbered title index)⟩
        warned := by rw [if_pos other] }
  · rw [assign_of_not_mem used] at unused ⊢
    exact
      { unused
        own := fun _ => rfl
        renamed := fun taken => absurd taken used
        warned := by rw [if_neg fun other => other rfl, List.append_nil] }

/-! A list of titles -/

def assignAll (taken : List String) : List (String × Nat) → List (String × List TitleWarning)
  | [] => []
  | (title, index) :: calls =>
    let given := assign taken title index
    given :: assignAll (taken ++ [given.1]) calls

theorem Issued.assignAll {taken : List String} (h : Issued taken) (calls : List (String × Nat)) :
    Issued (taken ++ (Title.assignAll taken calls).map Prod.fst) := by
  induction calls generalizing taken with
  | nil => simpa [Title.assignAll] using h
  | cons call calls ih =>
    have next := ih (h.assign call.1 call.2)
    rwa [List.append_assoc] at next

theorem getElem?_assignAll (taken : List String) {calls : List (String × Nat)} {n : Nat}
    {title : String} {index : Nat} (asked : calls[n]? = some (title, index)) :
    (assignAll taken calls)[n]?
      = some (assign (taken ++ ((assignAll taken calls).take n).map Prod.fst) title index) := by
  induction calls generalizing taken n with
  | nil => exact nomatch asked
  | cons call calls ih =>
    cases n with
    | zero =>
      obtain rfl := Option.some.inj asked
      simp [assignAll]
    | succ n =>
      have later := ih (taken ++ [(assign taken call.1 call.2).1]) asked
      rwa [List.append_assoc] at later

theorem length_assignAll (taken : List String) (calls : List (String × Nat)) :
    (assignAll taken calls).length = calls.length := by
  induction calls generalizing taken with
  | nil => rfl
  | cons call calls ih => exact congrArg (· + 1) (ih _)

/-- Whatever titles come, also repeated ones or ones that look like a renamed title: every one gets
a symbol of its own, and what it is due after those before it. -/
theorem assignAll_gives_due_symbols (calls : List (String × Nat)) :
    (assignAll [] calls).length = calls.length
      ∧ ((assignAll [] calls).map Prod.fst).Nodup
      ∧ (∀ ident ∈ (assignAll [] calls).map Prod.fst, Symbol ident)
      ∧ (∀ n title index, calls[n]? = some (title, index) → ∃ ident warnings,
          (assignAll [] calls)[n]? = some (ident, warnings)
            ∧ Due (((assignAll [] calls).take n).map Prod.fst) title index ident warnings)
      ∧ ∀ title, sanitize (sanitize title) = sanitize title := by
  have issued := Issued.assignAll ⟨List.nodup_nil, fun _ => nofun⟩ calls
  rw [List.nil_append] at issued
  refine ⟨length_assignAll [] calls, issued.distinct, issued.symbols, ?_, sanitize_sanitize⟩
  intro n title index asked
  have given := getElem?_assignAll [] asked
  rw [List.nil_append] at given
  exact ⟨_, _, given, due_assign _ title index⟩

/-- The rename of one title can be the own symbol of a later one. -/
example : (assignAll [] [("none", 0), ("none", 1), ("none_1", 2)]).map Prod.fst
    = ["NONE", "NONE_1", "NONE_1_2"] := by
  decide +kernel

end TuneBank.Title
