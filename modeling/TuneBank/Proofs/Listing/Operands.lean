import TuneBank.Listing.Music
import TuneBank.Proofs.Listing.Blocks
import TuneBank.Proofs.Text.Numeral

/-! What the operands of a listing of music stand for: numbers in either base, halves of addresses,
and the constants that the listing declares itself. -/

namespace TuneBank.Listing

open List (Forall₂)
open Text (Base)

variable {defs : List (String × Int)}

theorem atom_of_spells {b : Base} {n : Nat} {s : String} (h : b.Spells n s) : Atom s := by
  have digit : ∀ d < 16, isAtomChar (Base.digitChar d) = true := by decide
  refine ⟨h.ne_nil, fun c member => ?_⟩
  obtain ⟨d, small, rfl⟩ := h.digitChar_of_mem member
  exact digit d small

theorem noNewline_of_spells {b : Base} {n : Nat} {s : String} (h : b.Spells n s) :
    '\n' ∉ s.toList :=
  (atom_of_spells h).not_mem (by decide)

theorem denotes_hex (width n : Nat) :
    Denotes defs ("$" ++ Text.hex width n) (.number n) := by
  have spelled := Base.spells_hex width n
  refine ⟨(by decide : Atom "$").append (atom_of_spells spelled), ?_⟩
  simp [datum?, number?, spelled.digits?]

theorem denotes_decimal (n : Nat) : Denotes defs (Text.decimal n) (.number n) := by
  have spelled := Base.spells_decimal n
  have atom := atom_of_spells spelled
  obtain ⟨c, cs, chars, -, -⟩ := spelled.exists_cons
  obtain ⟨d, small, rfl⟩ := spelled.digitChar_of_mem (chars ▸ List.mem_cons_self)
  have plain : ∀ d < 16, Base.digitChar d ∉ ['<', '>', '$', '-'] := by decide
  have start := plain d small
  have read := spelled.digits?
  refine ⟨atom, ?_⟩
  rw [chars] at read
  simp_all [datum?, number?]

theorem denotes_signed (i : Int) : Denotes defs (Text.signed i) (.number i) := by
  cases i with
  | ofNat n => exact denotes_decimal n
  | negSucc n =>
    have spelled := Base.spells_decimal (n + 1)
    refine ⟨(by decide : Atom "-").append (atom_of_spells spelled), ?_⟩
    simp [Text.signed, datum?, number?, spelled.digits?, Int.negSucc_eq]

theorem atom_entryLabel {stem : String} (atom : Atom stem) (i : Nat) : Atom (entryLabel stem i) :=
  (atom.append (by decide : Atom "_")).append (atom_of_spells (Base.spells_hex 2 i))

theorem denotes_low {label : String} (atom : Atom label) :
    Denotes defs ("<" ++ label) (.low label) :=
  ⟨(by decide : Atom "<").append atom, by simp [datum?]⟩

theorem denotes_high {label : String} (atom : Atom label) :
    Denotes defs (">" ++ label) (.high label) :=
  ⟨(by decide : Atom ">").append atom, by simp [datum?]⟩

theorem denotes_constant {name : String} {value : Int} (atom : Atom name)
    (capital : name.toList.head?.any Title.isCapital) (known : defs.lookup name = some value) :
    Denotes defs name (.number value) := by
  refine ⟨atom, ?_⟩
  obtain ⟨c, cs, chars⟩ := List.exists_cons_of_ne_nil atom.1
  have upper : 'A' ≤ c ∧ c ≤ 'Z' := by simpa [chars, Title.isCapital] using capital
  have noDigit : ¬ ('0' ≤ c ∧ c ≤ '9') := fun digit =>
    absurd (Char.le_trans upper.1 digit.2) (by decide)
  have noSign : c ∉ ['<', '>', '$', '-'] := by
    intro sign
    have small : ['<', '>', '$', '-'].all (¬ 'A' ≤ ·) := by decide
    exact of_decide_eq_true (List.all_eq_true.mp small c sign) upper.1
  have noNumber : Base.decimal.digits? (c :: cs) = none := by
    rw [Base.digits?, Base.readFrom?, Base.digit?, if_neg noDigit]
  simp_all [datum?, number?]

def byteDatum (b : UInt8) : Datum := .number b.toNat

theorem denotes_hexOperand (b : UInt8) : Denotes defs (hexOperand b) (byteDatum b) :=
  denotes_hex 2 b.toNat

section
variable {names : List (String × UInt8)}
  (declared : ∀ p ∈ names, Denotes defs p.1 (byteDatum p.2))
include declared

theorem denotes_namedOperand (b : UInt8) : Denotes defs (namedOperand names b) (byteDatum b) := by
  unfold namedOperand Bytecode.nameIn?
  cases found : names.find? (·.2 = b) with
  | none => exact denotes_hexOperand b
  | some p =>
    obtain rfl : p.2 = b := by simpa using List.find?_some found
    exact declared p (List.mem_of_find?_eq_some found)

end

theorem denotes_patternOperands
    (declared : ∀ p ∈ Bytecode.patternNames, Denotes defs p.1 (byteDatum p.2))
    (bytes : List UInt8) :
    Forall₂ (Denotes defs) (patternOperands bytes) (bytes.map byteDatum) := by
  have named := denotes_namedOperand declared
  induction bytes using patternOperands.induct with
  | case1 => exact .nil
  | case2 b operand rest takes ih =>
    rw [patternOperands, if_pos takes]
    exact .cons (named b) (.cons (denotes_hexOperand operand) ih)
  | case3 b operand rest plain ih =>
    rw [patternOperands, if_neg plain]
    exact .cons (named b) ih
  | case4 b => exact .cons (named b) .nil

def definitions (set : PackedSet) : List (String × Int) :=
  [("MUSIC_COUNT", (set.songs.length : Int)), ("SFX_COUNT", set.pool.sfx.length),
    ("MACRO_COUNT", set.pool.macros.length), ("INSTRUMENT_COUNT", set.pool.instruments.length),
    ("PATTERN_COUNT", set.pool.patterns.length), ("LOOP", Macro.loopMarker.toInt)]
  ++ (Bytecode.patternNames ++ Bytecode.sfxNames).map fun (name, byte) => (name, (byte.toNat : Int))

theorem nodup_definitions (set : PackedSet) : ((definitions set).map Prod.fst).Nodup := by
  have names : (["MUSIC_COUNT", "SFX_COUNT", "MACRO_COUNT", "INSTRUMENT_COUNT", "PATTERN_COUNT",
      "LOOP"] ++ (Bytecode.patternNames ++ Bytecode.sfxNames).map Prod.fst).Nodup := by
    decide +kernel
  rw [definitions, List.map_append, List.map_map]
  exact names

theorem number?_of_denotes {text : String} {value : Int} (h : Denotes defs text (.number value)) :
    number? defs text = some value := by
  have read := h.2
  unfold datum? at read
  split at read
  · exact nomatch read
  · exact nomatch read
  · simpa using read

theorem constants?_constants (set : PackedSet) :
    constants? ((constants set).map Line.statement) = some (definitions set) := by
  have decimal (n : Nat) : number? [] (Text.decimal n) = some (n : Int) :=
    number?_of_denotes (denotes_decimal n)
  have signed (i : Int) : number? [] (Text.signed i) = some i :=
    number?_of_denotes (denotes_signed i)
  have declared : ((constants set).map Line.statement).filterMap Statement.constant?
      = [("MUSIC_COUNT", Text.decimal set.songs.length),
          ("SFX_COUNT", Text.decimal set.pool.sfx.length),
          ("MACRO_COUNT", Text.decimal set.pool.macros.length),
          ("INSTRUMENT_COUNT", Text.decimal set.pool.instruments.length),
          ("PATTERN_COUNT", Text.decimal set.pool.patterns.length),
          ("LOOP", Text.signed Macro.loopMarker.toInt)]
        ++ (Bytecode.patternNames ++ Bytecode.sfxNames).map fun p => (p.1, hexOperand p.2) := by
    rw [constants, List.map_append, List.filterMap_append, List.map_map (f := fun _ => _),
      List.filterMap_map (l := Bytecode.patternNames ++ Bytecode.sfxNames)]
    exact congrArg (_ ++ ·) (congrFun List.filterMap_eq_map' _)
  have named : ((Bytecode.patternNames ++ Bytecode.sfxNames).map fun p =>
        (p.1, hexOperand p.2)).mapM (fun p => (number? [] p.2).map (p.1, ·))
      = some ((Bytecode.patternNames ++ Bytecode.sfxNames).map fun p =>
        (p.1, (p.2.toNat : Int))) := by
    rw [List.mapM_map]
    refine mapM_eq_map fun p _ => ?_
    rw [Function.comp_apply, number?_of_denotes (denotes_hexOperand p.2)]
    rfl
  have read : (((constants set).map Line.statement).filterMap Statement.constant?).mapM
      (fun p => (number? [] p.2).map (p.1, ·)) = some (definitions set) := by
    rw [declared, List.mapM_append, named]
    simp [decimal, signed, definitions]
  simp only [constants?, read, bind, Option.bind_some, nodup_definitions, if_true, pure]

theorem lookup_of_mem {key : String} {value : Int} (distinct : (defs.map Prod.fst).Nodup)
    (member : (key, value) ∈ defs) : defs.lookup key = some value := by
  obtain ⟨before, after, rfl⟩ := List.append_of_mem member
  refine List.lookup_eq_some_iff.mpr ⟨before, after, rfl, fun p earlier => ?_⟩
  rw [List.map_append, List.nodup_append] at distinct
  simpa using (distinct.2.2 p.1 (List.mem_map_of_mem earlier) key (by simp)).symm

theorem lookup_definitions (set : PackedSet) (p : String × UInt8)
    (member : p ∈ Bytecode.patternNames ++ Bytecode.sfxNames) :
    (definitions set).lookup p.1 = some (p.2.toNat : Int) :=
  lookup_of_mem (nodup_definitions set)
    (List.mem_append_right _ (List.mem_map.mpr ⟨p, member, rfl⟩))

theorem denotes_names (set : PackedSet) (p : String × UInt8)
    (member : p ∈ Bytecode.patternNames ++ Bytecode.sfxNames) :
    Denotes (definitions set) p.1 (byteDatum p.2) := by
  have names : ∀ p ∈ Bytecode.patternNames ++ Bytecode.sfxNames,
      Atom p.1 ∧ p.1.toList.head?.any Title.isCapital := by decide +kernel
  exact denotes_constant (names p member).1 (names p member).2 (lookup_definitions set p member)

theorem denotes_macroOperands (set : PackedSet) (m : Macro) :
    Forall₂ (Denotes (definitions set)) (macroOperands m) (m.packed.map .number) := by
  have loop : (definitions set).lookup "LOOP" = some Macro.loopMarker.toInt :=
    lookup_of_mem (nodup_definitions set) (List.mem_append_left _ (by simp))
  have ticks : Forall₂ (Denotes (definitions set)) (m.ticks.map fun t => Text.signed t.toInt)
      (m.ticks.map fun t => .number t.toInt) :=
    denotes_map fun t _ => denotes_signed t.toInt
  have last : Forall₂ (Denotes (definitions set)) ["LOOP", Text.decimal m.loopPoint.toNat]
      [.number Macro.loopMarker.toInt, .number m.loopPoint.toNat] :=
    .cons (denotes_constant (by decide) (by decide) loop) (.cons (denotes_decimal _) .nil)
  rw [macroOperands, Macro.packed, List.map_append, List.map_map]
  exact List.rel_append ticks last

end TuneBank.Listing
