import TuneBank.Proofs.Checked.Cells
import TuneBank.Proofs.Checked.Records

/-! An import whose steps are checked. Lists are grown before an entry is set, a slot is made before
it is written, and a row is compared with the pattern before its cells are. -/

namespace TuneBank.Checked

open Export (Import Record)

def setGrowing {α : Type} (filler : α) (l : List α) (i : Nat) (a : α) : Checked (List α) :=
  replace (l ++ List.replicate (i + 1 - l.length) filler) i a

theorem setGrowing_value {α : Type} (filler : α) (l : List α) (i : Nat) (a : α) :
    setGrowing filler l i a = .ok (TuneBank.setGrowing filler l i a) := by
  refine replace_value ?_ a
  rw [List.length_append, List.length_replicate]
  omega

theorem index_kind {α : Type} (t : PerKind α) (kind : MacroKind) :
    index t.toList kind.index = .ok (t.get kind) := by
  cases kind <;> rfl

def ofAuthored (kind : MacroKind) (values : List Int8) (loopPoint : Option UInt8) :
    Checked Macro :=
  if values.isEmpty then .ok .noop
  else
    let ticks := values.take Macro.maxLength
    match loopPoint.filter (·.toNat < ticks.length) with
    | some point => .ok ⟨ticks, point⟩
    | none => do
      let held := if kind = .pitch then ticks ++ [0] else ticks
      let last ← subtract held.length 1
      return ⟨held, UInt8.ofNat last⟩

theorem ofAuthored_value (kind : MacroKind) (values : List Int8) (loopPoint : Option UInt8) :
    ofAuthored kind values loopPoint = .ok (Macro.ofAuthored kind values loopPoint) := by
  by_cases empty : values.isEmpty
  · rw [ofAuthored, Macro.ofAuthored, if_pos empty, if_pos empty]
  · have nonempty : 1 ≤ (values.take Macro.maxLength).length := by
      have := List.length_pos_iff.mpr fun same => empty (List.isEmpty_iff.mpr same)
      rw [List.length_take, Macro.maxLength]
      omega
    simp only [ofAuthored, Macro.ofAuthored, if_neg empty]
    generalize values.take Macro.maxLength = ticks at nonempty ⊢
    have held : 1 ≤ (if kind = .pitch then ticks ++ [0] else ticks).length := by
      split_ifs
      · simp
      · exact nonempty
    cases loopPoint.filter (·.toNat < ticks.length) with
    | some point => rfl
    | none => rw [subtract_value held]; rfl

def setMacro (t : Track) (kind : MacroKind) (i : Nat) (m : Macro) : Checked Track := do
  let list ← index t.macros.toList kind.index
  let list ← setGrowing .noop list i m
  return { t with macros := t.macros.set kind list }

theorem setMacro_value (t : Track) (kind : MacroKind) (i : Nat) (m : Macro) :
    setMacro t kind i m = .ok (t.setMacro kind i m) := by
  rw [setMacro, index_kind, ok_bind, setGrowing_value]
  rfl

def applyMacro (s : Import) (line : Nat) (m : Export.MacroRecord) : Checked Import :=
  let s := s.report (m.errors line)
  if m.holdsMarker then .ok s
  else do
    let content ← ofAuthored m.kind m.values m.loopPoint?
    let track ← setMacro s.track m.kind m.index.toNat content
    return { s with track := track }

theorem applyMacro_value (s : Import) (line : Nat) (m : Export.MacroRecord) :
    applyMacro s line m = .ok (s.readMacro line m) := by
  rw [applyMacro, Import.readMacro, Export.MacroRecord.accepted?]
  by_cases marked : m.holdsMarker
  · simp only [if_pos marked]
  · simp only [if_neg marked, ofAuthored_value, ok_bind, setMacro_value]
    rfl

def applyRow (s : Import) (line row : Nat) (cells : PerChannel Cell)
    (unknownNotes : List (Channel × String)) : Checked Import := do
  let s := s.report (unknownNotes.map fun (c, text) => .unknownNote line c text)
  let track := s.track.ensureSlot s.slot
  let pattern ← index track.patterns s.slot.toNat
  if row < pattern.rows then
    let pattern ← writeRow pattern row cells
    let patterns ← replace track.patterns s.slot.toNat pattern
    return { s with track := { track with patterns := patterns } }
  else return { s with track := track }.report [.rowOutOfRange line row pattern.rows]

theorem applyRow_value (s : Import) (line row : Nat) (cells : PerChannel Cell)
    (unknownNotes : List (Channel × String)) :
    applyRow s line row cells unknownNotes = .ok (s.readRow line row cells unknownNotes) := by
  have made : s.slot.toNat < (s.track.ensureSlot s.slot).patterns.length := by
    rw [Track.ensureSlot, List.length_append, List.length_replicate]
    omega
  obtain ⟨pattern, found⟩ : ∃ p, (s.track.ensureSlot s.slot).patterns[s.slot.toNat]? = some p :=
    ⟨_, List.getElem?_eq_getElem made⟩
  have rows : (s.track.ensureSlot s.slot).slotRows s.slot = pattern.rows := by
    rw [Track.slotRows, Track.pattern?, found]
    rfl
  simp only [applyRow, Import.readRow, Import.report, index_value found, ok_bind, rows]
  by_cases inside : row < pattern.rows
  · simp only [if_pos inside, writeRow_value inside, replace_value made, ok_bind, pure_eq_ok]
    rw [Track.modifySlot, List.modify_eq_set_getElem?, found]
    rfl
  · simp only [if_neg inside, pure_eq_ok]

def apply (wanted : Nat) (s : Import) (line : Nat) : Record → Checked Import
  | .title text => .ok { s with track := { s.track with title := text }, titled := true }
  | .macroDef m => applyMacro s line m
  | .instrument number i => do
    let instruments ← setGrowing .empty s.track.instruments number.toNat i
    return { s with track := { s.track with instruments := instruments } }
  | .trackHeader patternLength speed tempo _ =>
    .ok (s.readTrackHeader wanted line patternLength speed tempo)
  | .order number slots => do
    let order ← setGrowing (.ofFn fun _ => 0) s.track.order number.toNat slots
    return { s with track := { s.track with order := order } }
  | .patternSelect slot => .ok { s with slot := slot }
  | .row row cells unknownNotes => applyRow s line row cells unknownNotes

theorem apply_value (wanted : Nat) (s : Import) (line : Nat) (r : Record) :
    apply wanted s line r = .ok (s.apply wanted line r) := by
  cases r with
  | title text => rfl
  | macroDef m => exact applyMacro_value s line m
  | instrument number i =>
    rw [apply, setGrowing_value]
    rfl
  | trackHeader => rfl
  | order number slots =>
    rw [apply, setGrowing_value]
    rfl
  | patternSelect slot => rfl
  | row row cells unknownNotes => exact applyRow_value s line row cells unknownNotes

def readLine (wanted : Nat) (s : Import) (line : Nat) (text : String) : Checked Import :=
  match Text.fields text with
  | [] => .ok s
  | name :: fields =>
    match Export.RecordKind.ofName? name with
    | none => .ok s
    | some kind =>
      if s.passesOver wanted kind then .ok s
      else do
        match ← read kind text (name :: fields) with
        | some r => apply wanted s line r
        | none => return s.report [.malformed line kind]

theorem readLine_value (wanted : Nat) (s : Import) (line : Nat) (text : String) :
    readLine wanted s line text = .ok (s.readLine wanted line text) := by
  rw [readLine, Import.readLine, Export.decode]
  cases Text.fields text with
  | nil => rfl
  | cons name fields =>
    cases named : Export.RecordKind.ofName? name with
    | none => simp only [named]
    | some kind =>
      simp only [named, read_value]
      cases readable : Record.read? kind text fields with
      | none =>
        simp only [ok_bind, pure_eq_ok]
        exact (apply_ite Except.ok _ _ _).symm
      | some r =>
        have same : r.kind = kind := (Record.shape_of_read? readable).1
        simp only [same, ok_bind, apply_value]
        exact (apply_ite Except.ok _ _ _).symm

def readLines (wanted : Nat) (s : Import) : Nat → List String → Checked Import
  | _, [] => .ok s
  | n, text :: texts => do
    let s ← readLine wanted s n text
    readLines wanted s (n + 1) texts

theorem readLines_value (wanted : Nat) (s : Import) (n : Nat) (texts : List String) :
    readLines wanted s n texts = .ok (s.readLines wanted n texts) := by
  induction texts generalizing s n with
  | nil => rfl
  | cons text texts ih =>
    rw [readLines, readLine_value, ok_bind, ih]
    rfl

def load (text : String) (wanted : Nat) : Checked (Diagnosed Export.ImportError Track) := do
  let s ← readLines wanted .start 1 (Text.lines text)
  return s.finish wanted

theorem load_value (text : String) (wanted : Nat) :
    load text wanted = .ok (Export.load text wanted) := by
  rw [load, readLines_value]
  rfl

end TuneBank.Checked
