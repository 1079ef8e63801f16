import Mathlib.Data.List.Nodup
import Mathlib.Data.List.Perm.Subperm
import TuneBank.Proofs.Text.Numeral
import TuneBank.Title

/-! The symbols that titles get. A symbol is made of capitals, digits and underscores and does not
start with a digit, and a title never gets one that was handed out before: of more candidates than
there are taken names one is free. -/

namespace TuneBank.Title

def isSymbolChar (c : Char) : Bool := isCapital c || isDigit c || c = '_'

theorem toNat_lt_of_isSymbolChar {c : Char} (h : isSymbolChar c) : c.toNat < 128 := by
  simp only [isSymbolChar, isCapital, isDigit, Bool.or_eq_true, Bool.and_eq_true,
    decide_eq_true_eq] at h
  rcases h with (capital | digit) | rfl
  · exact Nat.lt_of_le_of_lt capital.2 (by decide : 'Z'.toNat < 128)
  · exact Nat.lt_of_le_of_lt digit.2 (by decide : '9'.toNat < 128)
  · decide

structure Symbol (s : String) : Prop where
  start : ∃ c cs, s.toList = c :: cs ∧ isDigit c = false
  chars : ∀ c ∈ s.toList, isSymbolChar c

theorem isSymbolChar_symbolChar (c : Char) : isSymbolChar (symbolChar c) := by
  unfold symbolChar
  split
  · assumption
  · decide

theorem symbol_sanitize (title : String) : Symbol (sanitize title) := by
  have own : ∀ c ∈ (Text.upperCase title).toList.map symbolChar, isSymbolChar c := by
    simpa using fun c _ => isSymbolChar_symbolChar c
  unfold sanitize guardStart
  split
  · exact ⟨⟨'U', _, rfl, by decide⟩, List.all_eq_true.mp (by decide)⟩
  · rename_i c cs chars
    rw [chars] at own
    split_ifs with digit
    · refine ⟨⟨'_', c :: cs, String.toList_ofList, by decide⟩, ?_⟩
      rw [String.toList_ofList]
      exact List.forall_mem_cons.mpr ⟨by decide, own⟩
    · exact ⟨⟨c, cs, String.toList_ofList, Bool.eq_false_iff.mpr digit⟩,
        by rwa [String.toList_ofList]⟩

theorem Symbol.append {s t : String} (h : Symbol s) (chars : ∀ c ∈ t.toList, isSymbolChar c) :
    Symbol (s ++ t) where
  start := by
    obtain ⟨c, cs, first, letter⟩ := h.start
    exact ⟨c, cs ++ t.toList, by rw [String.toList_append, first, List.cons_append], letter⟩
  chars c member := by
    rw [String.toList_append] at member
    exact (List.mem_append.mp member).elim (h.chars c) (chars c)

theorem isSymbolChar_of_mem_decimal {n : Nat} {c : Char} (member : c ∈ (Text.decimal n).toList) :
    isSymbolChar c := by
  have each : ∀ d < 16, isSymbolChar (Text.Base.digitChar d) := by decide
  obtain ⟨d, small, rfl⟩ := (Text.Base.spells_decimal n).digitChar_of_mem member
  exact each d small

theorem symbol_assign (taken : List String) (title : String) (index : Nat) :
    Symbol (assign taken title index).1 := by
  have ident := symbol_sanitize title
  unfold assign
  simp only
  split
  · have numbered := (ident.append (t := "_") (List.all_eq_true.mp (by decide))).append
      fun c => isSymbolChar_of_mem_decimal (n := index)
    refine numbered.append fun c member => ?_
    rw [String.toList_ofList] at member
    obtain rfl := List.eq_of_mem_replicate member
    decide
  · exact ident

theorem withUnderscores_inj {name : String} {m n : Nat}
    (h : withUnderscores name m = withUnderscores name n) : m = n := by
  simpa [withUnderscores] using congrArg String.length h

theorem firstFree_not_mem (taken : List String) (name : String) : firstFree taken name ∉ taken := by
  unfold firstFree
  simp only
  cases found : (List.range (taken.length + 1)).find?
      fun n => !taken.contains (withUnderscores name n) with
  | some n => simpa using List.find?_some found
  | none =>
    have all : (List.range (taken.length + 1)).map (withUnderscores name) ⊆ taken := by
      simpa [List.subset_def, List.find?_eq_none] using found
    have distinct : ((List.range (taken.length + 1)).map (withUnderscores name)).Nodup :=
      List.nodup_range.map fun _ _ => withUnderscores_inj
    have few := (distinct.subperm all).length_le
    rw [List.length_map, List.length_range] at few
    exact absurd few (Nat.not_succ_le_self _)

theorem assign_not_mem (taken : List String) (title : String) (index : Nat) :
    (assign taken title index).1 ∉ taken := by
  unfold assign
  simp only
  split
  · exact firstFree_not_mem taken _
  · rename_i free
    simpa using free

structure Issued (idents : List String) : Prop where
  distinct : idents.Nodup
  symbols : ∀ ident ∈ idents, Symbol ident

theorem Issued.assign {idents : List String} (h : Issued idents) (title : String) (index : Nat) :
    Issued (idents ++ [(Title.assign idents title index).1]) where
  distinct := by
    refine List.nodup_append.mpr ⟨h.distinct, List.nodup_singleton _, ?_⟩
    rintro ident old last new rfl
    exact assign_not_mem idents title index (List.mem_singleton.mp new ▸ old)
  symbols ident member := by
    rcases List.mem_append.mp member with old | new
    · exact h.symbols ident old
    · rw [List.mem_singleton.mp new]
      exact symbol_assign idents title index

end TuneBank.Title
