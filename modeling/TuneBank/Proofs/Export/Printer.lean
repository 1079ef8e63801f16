import TuneBank.Proofs.Export.Grammar

/-! A plain printer of files. It puts one blank between fields and lets macro values follow a colon;
what it writes is in the grammar, so every file that can be printed has a print. -/

namespace TuneBank

namespace Text

theorem spaced_intercalate (field : String) (fields : List String) :
    Spaced (field :: fields) (" ".intercalate (field :: fields)).toList := by
  induction fields generalizing field with
  | nil =>
    rw [String.intercalate_singleton]
    exact .last field
  | cons next fields ih =>
    have gap : Gap [' '] := ⟨List.cons_ne_nil _ _, List.forall_mem_singleton.mpr rfl, by decide⟩
    rw [String.intercalate_cons_cons, String.toList_append, String.toList_append]
    exact .cons field gap (ih next)

end Text

namespace Export

open List (Forall₂)
open Text (Base)

def numberText (blank : String) (width : Nat) : Option UInt8 → String
  | none => blank
  | some n => Text.hex width n.toNat

theorem numberColumn_numberText (blank : String) (width : Nat) (n : Option UInt8) :
    NumberColumn blank n (numberText blank width n) := by
  cases n with
  | none => exact .none
  | some n => exact .some (Base.spells_hex width n.toNat)

theorem effectColumns_labels (effects : List Effect) :
    EffectColumns effects (effects.map Effect.label) := by
  induction effects with
  | nil => exact .nil
  | cons e effects ih => exact .effect e ih

def cellTexts (cell : Cell) : List String :=
  cell.note.label :: numberText ".." 2 cell.instrument :: numberText "." 1 cell.volume
    :: cell.effects.map Effect.label

theorem cellColumns_cellTexts {cell : Cell} (few : cell.effects.length ≤ Cell.maxEffects) :
    CellColumns cell (cellTexts cell) :=
  .mk (numberColumn_numberText ..) (numberColumn_numberText ..) (effectColumns_labels cell.effects)
    (by rw [List.length_map]; exact few)

def referenceText : Option UInt8 → String
  | none => Text.signed (-1)
  | some n => Text.decimal n.toNat

theorem reference_referenceText (n : Option UInt8) : Reference n (referenceText n) := by
  cases n with
  | none => exact .none (Text.spellsInt_signed (-1))
  | some n => exact .some (Base.spells_decimal n.toNat)

namespace Record

def fieldTexts : Record → List String
  | title _ => []
  | macroDef m => Text.decimal m.kind.index :: Text.decimal m.index.toNat
    :: Text.signed m.loopPoint :: Text.signed m.release :: Text.signed m.mode :: ":"
    :: m.values.map fun v => Text.signed v.toInt
  | instrument number i => Text.decimal number.toNat
    :: (PerKind.ofFn fun kind => referenceText (i.macros.get kind)).toList
  | trackHeader patternLength speed tempo _ =>
    [Text.decimal patternLength, Text.decimal speed.toNat, Text.decimal tempo]
  | order number frame => Text.hexByte number :: ":"
    :: (PerChannel.ofFn fun c => Text.hexByte (frame.get c)).toList
  | patternSelect slot => [Text.hexByte slot]
  | row number cells _ => Text.hex 2 number
    :: (PerChannel.ofFn fun c => cellTexts (cells.get c)).toList.flatMap (":" :: ·)

def lastName? : Record → Option String
  | title text => some text
  | instrument _ i => some i.name
  | trackHeader _ _ _ name => some name
  | _ => none

def line (r : Record) : String :=
  " ".intercalate (r.kind.name :: r.fieldTexts) ++
    match r.lastName? with
    | none => ""
    | some name => " \"" ++ name ++ "\""

theorem spaced_line (r : Record) (unnamed : r.lastName? = none) :
    Text.Spaced (r.kind.name :: r.fieldTexts) r.line.toList := by
  rw [line, unnamed, String.append_empty]
  exact Text.spaced_intercalate _ _

theorem named_line (r : Record) {name : String} (named : r.lastName? = some name) :
    Named (r.kind.name :: r.fieldTexts) name r.line := by
  have gap : Text.Gap [' '] := ⟨List.cons_ne_nil _ _, List.forall_mem_singleton.mpr rfl, by decide⟩
  refine ⟨_, _, Text.spaced_intercalate _ _, gap, ?_⟩
  rw [line, named]
  simp [String.toList_append]

theorem prints_line {r : Record} (fits : r.Printable) : Prints r r.line := by
  cases r with
  | title text => exact .title (named_line (title text) rfl)
  | macroDef m =>
    have values : Forall₂ (fun v field => Text.SpellsInt (Int8.toInt v) field) m.values
        (m.values.map fun v => Text.signed v.toInt) :=
      List.forall₂_map_right_iff.mpr
        (List.forall₂_same.mpr fun v _ => Text.spellsInt_signed v.toInt)
    exact .macroDef (Base.spells_decimal _) (Base.spells_decimal _) (Text.spellsInt_signed _)
      (Text.spellsInt_signed _) (Text.spellsInt_signed _) .colon values
      (spaced_line (macroDef m) rfl)
  | instrument number i =>
    refine .instrument (Base.spells_decimal _) (fun kind => ?_)
      (named_line (instrument number i) rfl)
    rw [PerKind.get_ofFn]
    exact reference_referenceText _
  | trackHeader patternLength speed tempo name =>
    exact .trackHeader (Base.spells_decimal _) (Base.spells_decimal _) (Base.spells_decimal _)
      (named_line (trackHeader patternLength speed tempo name) rfl)
  | order number frame =>
    refine .order (Base.spells_hex 2 _) (fun c => ?_) (spaced_line (order number frame) rfl)
    rw [PerChannel.get_ofFn]
    exact Base.spells_hex 2 _
  | patternSelect slot =>
    exact .patternSelect (Base.spells_hex 2 _) (spaced_line (patternSelect slot) rfl)
  | row number cells unknown =>
    obtain ⟨-, rfl, exportable⟩ := fits
    refine .row (Base.spells_hex 2 number) (fun c => ?_) (spaced_line (row number cells []) rfl)
    rw [PerChannel.get_ofFn]
    exact cellColumns_cellTexts (exportable c).count

example :
    (row 1 ⟨⟨.tone 3 1, some 0, some 15, [⟨66, 0⟩]⟩, .empty, .empty, ⟨.noise 11, none, some 0, []⟩,
      .empty⟩ []).line
      = "ROW 01 : C#3 00 F B00 : ... .. . : ... .. . : B-# .. 0 : ... .. ." := by
  decide +kernel

end Record

def File.print (f : File) : String := Text.unlines (f.records.map Record.line)

end Export

end TuneBank
