import Mathlib.Data.List.ReduceOption
import TuneBank.Listing.Music
import TuneBank.Proofs.Checked.Packing

/-! The listing of a run with checked steps. Levels are named by their distance from level 0, which
is taken only of a byte among them. -/

namespace TuneBank.Checked

open Bytecode Listing

/-! Names of bytes -/

def IsLevel (n : Nat) (base byte : UInt8) : Prop :=
  base ≤ byte ∧ byte.toNat < base.toNat + n

instance (n : Nat) (base byte : UInt8) : Decidable (IsLevel n base byte) :=
  inferInstanceAs (Decidable (base ≤ byte ∧ byte.toNat < base.toNat + n))

/-- The name of a level, which is looked up by its distance from level 0. -/
def levelName? (n : Nat) (base : UInt8) (stem : String) (byte : UInt8) : Checked (Option String) :=
  if IsLevel n base byte then do
    let level ← subtract byte.toNat base.toNat
    let name ← index ((levels n base stem).map Prod.fst) level
    return some name
  else .ok none

def orElse (a b : Checked (Option String)) : Checked (Option String) := do
  match ← a with
  | some name => return some name
  | none => b

def patternName? (byte : UInt8) : Checked (Option String) :=
  orElse (.ok (nameIn? (patternNames.take 8) byte)) (levelName? 16 Code.volume "VOL" byte)

def sfxName? (byte : UInt8) : Checked (Option String) :=
  orElse (.ok (nameIn? (sfxNames.take 1) byte))
    (orElse (levelName? 16 Code.volume "SVL" byte) (levelName? 4 Code.duty "SDT" byte))

theorem nameIn?_append (front back : List (String × UInt8)) (byte : UInt8) :
    nameIn? (front ++ back) byte = (nameIn? front byte).or (nameIn? back byte) := by
  rw [nameIn?, List.find?_append, nameIn?, nameIn?]
  cases front.find? (·.2 = byte) <;> rfl

theorem toNat_level {n i : Nat} {base : UInt8} (fits : base.toNat + n ≤ 256) (inside : i < n) :
    (base + UInt8.ofNat i).toNat = base.toNat + i := by
  have small : i < UInt8.size := by
    change i < 256
    omega
  rw [UInt8.toNat_add, UInt8.toNat_ofNat_of_lt' small]
  exact Nat.mod_eq_of_lt (by omega)

theorem find?_level {n : Nat} {base : UInt8} (fits : base.toNat + n ≤ 256) (byte : UInt8) :
    (List.range n).find? (fun i => base + UInt8.ofNat i = byte)
      = if IsLevel n base byte then some (byte.toNat - base.toNat) else none := by
  split_ifs with inside
  · obtain ⟨above, below⟩ := inside
    rw [UInt8.le_iff_toNat_le] at above
    have found : byte.toNat - base.toNat < n := by omega
    refine List.find?_range_eq_some.mpr ⟨?_, List.mem_range.mpr found, fun j earlier => ?_⟩
    · refine decide_eq_true (UInt8.toNat_inj.mp ?_)
      rw [toNat_level fits found]
      omega
    · have other : base + UInt8.ofNat j ≠ byte := fun same => by
        have value := congrArg UInt8.toNat same
        rw [toNat_level fits (by omega)] at value
        omega
      simp [other]
  · refine List.find?_eq_none.mpr fun i member found => inside ?_
    have small : i < n := List.mem_range.mp member
    have value := toNat_level fits small
    rw [of_decide_eq_true found] at value
    refine ⟨?_, by omega⟩
    rw [UInt8.le_iff_toNat_le]
    omega

theorem levelName?_value {n : Nat} {base : UInt8} (fits : base.toNat + n ≤ 256) (stem : String)
    (byte : UInt8) :
    levelName? n base stem byte = .ok (nameIn? (levels n base stem) byte) := by
  have name : nameIn? (levels n base stem) byte
      = ((List.range n).find? (fun i => base + UInt8.ofNat i = byte)).map fun i =>
          stem ++ String.ofList [Text.Base.digitChar i] := by
    rw [nameIn?, levels, List.find?_map, Option.map_map]
    rfl
  rw [levelName?, name, find?_level fits]
  split_ifs with inside
  · have above := UInt8.le_iff_toNat_le.mp inside.1
    have below := inside.2
    have level : byte.toNat - base.toNat < n := by omega
    rw [subtract_value above, ok_bind, levels, List.map_map, index_value, ok_bind]
    · rfl
    · rw [List.getElem?_map, List.getElem?_range level]
      rfl
  · rfl

theorem orElse_value (a b : Option String) : orElse (.ok a) (.ok b) = .ok (a.or b) := by
  cases a <;> rfl

theorem patternName?_value (byte : UInt8) :
    patternName? byte = .ok (nameIn? patternNames byte) := by
  have parts : patternNames = patternNames.take 8 ++ levels 16 Code.volume "VOL" := rfl
  rw [patternName?, levelName?_value (by decide), orElse_value, ← nameIn?_append, ← parts]

theorem sfxName?_value (byte : UInt8) : sfxName? byte = .ok (nameIn? sfxNames byte) := by
  have parts : sfxNames
      = sfxNames.take 1 ++ (levels 16 Code.volume "SVL" ++ levels 4 Code.duty "SDT") := rfl
  rw [sfxName?, levelName?_value (by decide), levelName?_value (by decide), orElse_value,
    orElse_value, ← nameIn?_append, ← nameIn?_append, ← parts]

/-! Streams -/

/-- A pattern stream by name, and whether its first byte is an operand. -/
def patternOperands : Bool → List UInt8 → Checked (List String)
  | _, [] => .ok []
  | true, b :: bytes => do
    let later ← patternOperands false bytes
    return hexOperand b :: later
  | false, b :: bytes => do
    let name ← patternName? b
    let later ← patternOperands (takesOperand b) bytes
    return name.getD (hexOperand b) :: later

theorem patternOperands_value (bytes : List UInt8) :
    patternOperands false bytes = .ok (Listing.patternOperands bytes) := by
  induction bytes using Listing.patternOperands.induct with
  | case1 => rfl
  | case2 b operand bytes takes ih =>
    simp only [patternOperands, patternName?_value, ok_bind, takes, ih, Listing.patternOperands]
    rfl
  | case3 b operand bytes plain ih =>
    have plain : takesOperand b = false := Bool.eq_false_iff.mpr plain
    rw [patternOperands, patternName?_value, ok_bind, plain, ih, Listing.patternOperands, plain]
    rfl
  | case4 b =>
    rw [patternOperands, patternName?_value, ok_bind]
    cases takesOperand b <;> rfl

def sfxOperands (bytes : List UInt8) : Checked (List String) :=
  bytes.mapM fun b => do
    let name ← sfxName? b
    return name.getD (hexOperand b)

theorem sfxOperands_value (bytes : List UInt8) :
    sfxOperands bytes = .ok (Listing.sfxOperands bytes) := by
  refine mapM_value fun b _ => ?_
  rw [sfxName?_value, ok_bind]
  rfl

/-! Tables -/

def eachEntry {α β : Type} (f : Nat → α → Checked β) (entries : List α) : Checked (List β) :=
  entries.zipIdx.mapM fun (a, i) => f i a

theorem eachEntry_value {α β : Type} {f : Nat → α → Checked β} {g : Nat → α → β}
    {entries : List α} (h : ∀ i, ∀ a ∈ entries, f i a = .ok (g i a)) :
    eachEntry f entries = .ok (entries.mapIdx g) := by
  rw [List.mapIdx_eq_zipIdx_map]
  exact mapM_value fun (a, i) member => h i a (List.fst_mem_of_mem_zipIdx member)

/-- The bytes of so many levels, from level 0 up to the byte after the last. -/
def levelBytes (base count : UInt8) : Checked (List UInt8) := do
  let stop ← addBytes base count
  return (List.range' base.toNat (stop.toNat - base.toNat)).map UInt8.ofNat

def declared (name? : UInt8 → Checked (Option String)) (bytes : List UInt8) :
    Checked (List (String × UInt8)) := do
  let named ← bytes.mapM fun b => do
    let name ← name? b
    return name.map (·, b)
  return named.reduceOption

def patternDeclarations : Checked (List (String × UInt8)) := do
  let volumes ← levelBytes Code.volume 16
  declared patternName? ([Code.halt, Code.loop, Code.patternBreak, Code.speed, Code.noteDelay,
    Code.finePitch, Code.portamento, Code.instrument] ++ volumes)

def sfxDeclarations : Checked (List (String × UInt8)) := do
  let volumes ← levelBytes Code.volume 16
  let duties ← levelBytes Code.duty 4
  declared sfxName? (Code.halt :: (volumes ++ duties))

theorem patternDeclarations_value : patternDeclarations = .ok patternNames := by
  decide +kernel

theorem sfxDeclarations_value : sfxDeclarations = .ok sfxNames := by
  decide +kernel

def constants (set : PackedSet) : Checked (List Line) := do
  let patterns ← patternDeclarations
  let sfx ← sfxDeclarations
  return [ .constant "MUSIC_COUNT" (Text.decimal set.songs.length),
      .constant "SFX_COUNT" (Text.decimal set.pool.sfx.length),
      .constant "MACRO_COUNT" (Text.decimal set.pool.macros.length),
      .constant "INSTRUMENT_COUNT" (Text.decimal set.pool.instruments.length),
      .constant "PATTERN_COUNT" (Text.decimal set.pool.patterns.length),
      .blank,
      .constant "LOOP" (Text.signed Macro.loopMarker.toInt) ]
    ++ (patterns ++ sfx).map fun (name, byte) => .constant name (hexOperand byte)

theorem constants_value (set : PackedSet) : constants set = .ok (Listing.constants set) := by
  rw [constants, patternDeclarations_value, ok_bind, sfxDeclarations_value]
  rfl

def instrumentLine (i : Nat) (e : Entry (PerKind UInt8) InstrumentOrigin) : Checked Line := do
  let numbers ← storedKinds.mapM fun kind => index e.content.toList kind.index
  return .data (numbers.map hexOperand)
    (some (Text.hex 2 i ++ " " ++ e.origin.title ++ ": " ++ e.origin.name))

theorem instrumentLine_value (i : Nat) (e : Entry (PerKind UInt8) InstrumentOrigin) :
    instrumentLine i e = .ok (Listing.instrumentLine i e) := by
  rw [instrumentLine, mapM_value fun kind _ => index_kind e.content kind]
  rfl

def frameLine (i : Nat) (frame : PackedFrame) : Checked Line := do
  let numbers ← (List.range 4).mapM (index frame.toList)
  return .data (numbers.map hexOperand) (some (Text.hex 2 i))

theorem frameLine_value (i : Nat) (frame : PackedFrame) :
    frameLine i frame = .ok (.data (frame.toList.map hexOperand) (some (Text.hex 2 i))) := rfl

def orderLines (i : Nat) (e : SongEntry) : Checked (List Line) := do
  let frames ← eachEntry frameLine e.song.order
  return .label (entryLabel "data_order" i) (some e.ident) :: frames ++ [.blank]

theorem orderLines_value (i : Nat) (e : SongEntry) :
    orderLines i e = .ok (Listing.orderLines i e) := by
  rw [orderLines, eachEntry_value fun i frame _ => frameLine_value i frame]
  rfl

def patternLines (i : Nat) (e : Entry (List UInt8) PatternOrigin) : Checked (List Line) := do
  let operands ← patternOperands false e.content
  return .label (entryLabel "data_pattern" i)
      (some (e.origin.title ++ " " ++ e.origin.channel.name ++ " " ++ Text.hexByte e.origin.slot))
    :: wrapped streamWidth operands ++ [.blank]

theorem patternLines_value (i : Nat) (e : Entry (List UInt8) PatternOrigin) :
    patternLines i e = .ok (Listing.patternLines i e) := by
  rw [patternLines, patternOperands_value]
  rfl

def sfxLines (i : Nat) (e : SfxEntry × String) : Checked (List Line) := do
  let operands ← sfxOperands e.1.sfx.bytes
  return .label (entryLabel "data_sfx" i) (some e.2) :: wrapped streamWidth operands ++ [.blank]

theorem sfxLines_value (i : Nat) (e : SfxEntry × String) :
    sfxLines i e = .ok (Listing.sfxLines i e) := by
  rw [sfxLines, sfxOperands_value]
  rfl

/-- A block of entries, written one by one over the entries that were there. -/
def writeBlock {α : Type} (start n : Nat) (f : Nat → α) (table : List α) : Checked (List α) :=
  (List.range n).foldlM (fun table i => replace table (start + i) (f i)) table

theorem writeBlock_value {α : Type} (f : Nat → α) (front old : List α) {n : Nat}
    (room : n ≤ old.length) :
    writeBlock front.length n f (front ++ old)
      = .ok (front ++ (List.range n).map f ++ old.drop n) := by
  induction n with
  | zero => simp [writeBlock]
  | succ n ih =>
    have here : front.length + n
        < (front ++ (List.range n).map f ++ old.drop n).length := by
      simp only [List.length_append, List.length_map, List.length_range, List.length_drop]
      omega
    have next : (old.drop n).set 0 (f n) = f n :: old.drop (n + 1) := by
      rw [List.drop_eq_getElem_cons room, List.set_cons_zero]
    have before := ih (Nat.le_of_succ_le room)
    rw [writeBlock] at before ⊢
    rw [List.range_succ, List.foldlM_append, before, ok_bind, List.foldlM_cons,
      replace_value here, ok_bind, List.foldlM_nil, pure_eq_ok]
    simp [next]

def writeBlocks {α : Type} (m n : Nat) (f : Nat → Nat → α) (table : List α) : Checked (List α) :=
  (List.range m).foldlM (fun table a => writeBlock (a * n) n (f a) table) table

theorem writeBlocks_value {α : Type} (f : Nat → Nat → α) (old : List α) {m n : Nat}
    (room : m * n ≤ old.length) :
    writeBlocks m n f old
      = .ok ((List.range m).flatMap (fun a => (List.range n).map (f a)) ++ old.drop (m * n)) := by
  induction m with
  | zero => simp [writeBlocks]
  | succ m ih =>
    rw [Nat.succ_mul] at room
    have start : ((List.range m).flatMap fun a => (List.range n).map (f a)).length = m * n := by
      simp [List.length_flatMap]
    have before := ih (by omega)
    have block := writeBlock_value (f m) ((List.range m).flatMap fun a => (List.range n).map (f a))
      (old.drop (m * n)) (n := n) (by rw [List.length_drop]; omega)
    rw [start] at block
    rw [writeBlocks] at before ⊢
    rw [List.range_succ, List.foldlM_append, before, ok_bind, List.foldlM_cons, block, ok_bind,
      List.foldlM_nil, pure_eq_ok, Nat.succ_mul, List.drop_drop]
    simp

def scaling : Checked (List UInt8) :=
  writeBlocks 16 16 (fun a b => DriverTables.scale (UInt8.ofNat a) (UInt8.ofNat b))
    (List.replicate 256 0)

theorem scaling_value : scaling = .ok DriverTables.scaling := by
  rw [scaling, writeBlocks_value _ _ (by rw [List.length_replicate]), List.drop_replicate]
  exact congrArg Except.ok (List.append_nil _)

def driverTableLines : Checked (List Line) := do
  let volumes ← scaling
  let lines : List Line := .label "data_music_tuning_low" none ::
      wrapped tuningWidth (DriverTables.tuning.map fun p => "$" ++ Text.hex 2 (p % 256))
    ++ [.blank, .label "data_music_tuning_high" none]
    ++ wrapped tuningWidth (DriverTables.tuning.map fun p => "$" ++ Text.hex 2 (p / 256))
    ++ [.blank, .label "data_music_multiply" none]
    ++ wrapped 16 (volumes.map fun v => "$" ++ Text.hex 1 v.toNat)
    ++ [.blank]
  return lines

theorem driverTableLines_value : driverTableLines = .ok Listing.driverTableLines := by
  rw [driverTableLines, scaling_value]
  rfl

def music (set : PackedSet) (memory : String) : Checked (List Line) := do
  let constants ← constants set
  let instruments ← eachEntry instrumentLine set.pool.instruments
  let orders ← eachEntry orderLines set.songs
  let patterns ← eachEntry patternLines set.pool.patterns
  let sfx ← eachEntry sfxLines (set.pool.sfx.zip set.sfxIdents)
  let driverTables ← driverTableLines
  return [banner, .blank] ++ constants
    ++ [.blank, .directive (".segment \"" ++ memory ++ "\""), .blank]
    ++ (set.pool.macros.mapIdx macroLines).flatten ++ [.blank]
    ++ pointerTables "data_music_macro" "data_macro" set.pool.macros.length
    ++ [.label "data_music_instrument" none] ++ instruments
    ++ [.blank, .label "data_music_speed" none]
    ++ oneLine (set.songs.map fun s => Text.decimal s.song.speed.toNat)
    ++ [.blank, .label "data_music_pattern_length" none]
    ++ oneLine (set.songs.map fun s => lengthOperand s.song)
    ++ [.blank] ++ orders.flatten
    ++ pointerTables "data_music_order" "data_order" set.songs.length
    ++ patterns.flatten
    ++ pointerTables "data_music_pattern" "data_pattern" set.pool.patterns.length
    ++ sfx.flatten
    ++ pointerTables "data_sfx" "data_sfx" set.pool.sfx.length
    ++ driverTables ++ [ending]

theorem music_value (set : PackedSet) (memory : String) :
    music set memory = .ok (Listing.music set memory) := by
  rw [music, constants_value, ok_bind, eachEntry_value fun i e _ => instrumentLine_value i e,
    ok_bind, eachEntry_value fun i e _ => orderLines_value i e, ok_bind,
    eachEntry_value fun i e _ => patternLines_value i e, ok_bind,
    eachEntry_value fun i e _ => sfxLines_value i e, ok_bind, driverTableLines_value]
  rfl

end TuneBank.Checked
