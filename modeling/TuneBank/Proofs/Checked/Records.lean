import TuneBank.Proofs.Checked.Columns

/-! Records, read from the fields of a line by their places. Every reader looks at the number of
fields before it takes one, and a list of values is cut off only where its lead was found. -/

namespace TuneBank.Checked

open Export (Record)

def field {α : Type} (fields : List String) (i : Nat) (read? : String → Option α) :
    OptionT Checked α := do
  let text ← step (index fields i)
  given (read? text)

theorem field_value {α : Type} {fields : List String} (i : Nat) (text : String)
    (h : fields[i]? = some text) (read? : String → Option α) :
    field fields i read? = given (read? text) := by
  rw [field, index_value h, step_ok_bind]

def macroValues (fields : List String) : OptionT Checked (List String) :=
  match fields[6]? with
  | none => given (some [])
  | some lead =>
    if lead = ":" then step (rest fields 7)
    else do
      let count ← given (Text.natural? .decimal UInt64.size lead)
      let values ← step (rest fields 7)
      given (if count = values.length then some values else none)

theorem macroValues_value (fields : List String) :
    macroValues fields = given (Record.macroValues? (fields.drop 6)) := by
  have lead : fields[6]? = (fields.drop 6)[0]? := by rw [List.getElem?_drop]
  have after : fields.drop 7 = (fields.drop 6).drop 1 := by rw [List.drop_drop]
  rw [macroValues, lead]
  cases values : fields.drop 6 with
  | nil => rfl
  | cons first values =>
    have enough : 7 ≤ fields.length := by
      have length := congrArg List.length values
      rw [List.length_drop, List.length_cons] at length
      omega
    rw [rest_value enough, after, values]
    by_cases colon : first = ":"
    · subst colon
      rfl
    · simp only [List.getElem?_cons_zero, if_neg colon, step_ok_bind, given_bind_given,
        Record.macroValues?]
      cases Text.natural? .decimal UInt64.size first <;> rfl

def readMacro (fields : List String) : Checked (Option Record) :=
  if fields.length < 6 then .ok none
  else OptionT.run do
    let kind ← field fields 1 fun text =>
      (Text.natural? .decimal UInt64.size text).bind MacroKind.ofIndex?
    let index ← field fields 2 (Text.byte? .decimal)
    let loopPoint ← field fields 3 (Text.integer? 32)
    let release ← field fields 4 (Text.integer? 32)
    let mode ← field fields 5 (Text.integer? 32)
    let texts ← macroValues fields
    let values ← given (texts.mapM (Text.integer? 8))
    return .macroDef ⟨kind, index, loopPoint, release, mode, values.map Int8.ofInt⟩

theorem readMacro_value (name : String) (fields : List String) :
    readMacro (name :: fields) = .ok (Record.readMacro? fields) := by
  match fields with
  | [] | [_] | [_, _] | [_, _, _] | [_, _, _, _] => rfl
  | kind :: index :: loopPoint :: release :: mode :: rest =>
    rw [readMacro, if_neg (by simp), macroValues_value]
    simp only [field, Checked.index, List.getElem?_cons_succ, List.getElem?_cons_zero,
      Option.elim_some, step_ok_bind, List.drop_succ_cons, List.drop_zero, pure_eq_given,
      given_bind_given]
    rfl

def readInstrument (line : String) (fields : List String) : Checked (Option Record) :=
  if fields.length < 8 then .ok none
  else OptionT.run do
    let index ← field fields 1 (Text.byte? .decimal)
    let texts ← step (slice fields 2 7)
    let macros ← given ((PerKind.ofList? texts).bind (·.traverse? Record.readReference?))
    let name ← reading (quoted line)
    return .instrument index ⟨name, macros⟩

theorem readInstrument_value (line name : String) (fields : List String) :
    readInstrument line (name :: fields) = .ok (Record.readInstrument? line fields) := by
  match fields with
  | [] | [_] | [_, _] | [_, _, _] | [_, _, _, _] | [_, _, _, _, _] | [_, _, _, _, _, _] => rfl
  | index :: volume :: arpeggio :: pitch :: hiPitch :: duty :: last :: rest =>
    have texts :
        slice (name :: index :: volume :: arpeggio :: pitch :: hiPitch :: duty :: last :: rest) 2 7
          = .ok [volume, arpeggio, pitch, hiPitch, duty] := slice_value (by decide) (by simp)
    rw [readInstrument, if_neg (by simp), texts, quoted_value,
      field_value 1 index rfl]
    simp only [step_ok_bind, reading_ok, pure_eq_given, given_bind_given, run_given]
    rfl

def readTrackHeader (line : String) (fields : List String) : Checked (Option Record) :=
  if fields.length < 4 then .ok none
  else OptionT.run do
    let patternLength ← field fields 1 (Text.natural? .decimal UInt16.size)
    if patternLength = 0 ∨ patternLength > Pattern.maxRows then given none
    else
      let speed ← field fields 2 (Text.byte? .decimal)
      let tempo ← field fields 3 (Text.natural? .decimal UInt16.size)
      let name ← step (quoted line)
      return .trackHeader patternLength speed tempo (name.getD "")

theorem natural?_limited {α : Type} (text : String) (f : Nat → Option α) :
    (given (Text.natural? .decimal UInt16.size text) >>= fun n =>
        if n = 0 ∨ n > Pattern.maxRows then given none else given (f n))
      = given (Text.natural? .decimal (Pattern.maxRows + 1) text >>= fun n =>
        if n = 0 then none else f n) := by
  have refused (n : Nat) : (if n = 0 ∨ n > Pattern.maxRows then given none else given (f n))
      = given (if n = 0 ∨ n > Pattern.maxRows then none else f n) := (apply_ite given _ _ _).symm
  simp only [refused, given_bind_given, Text.natural?]
  cases Text.Base.decimal.read? text.toList with
  | none => rfl
  | some n =>
    have word : Pattern.maxRows + 1 ≤ UInt16.size := by decide
    simp only [Option.filter_some, decide_eq_true_eq]
    by_cases short : n < Pattern.maxRows + 1
    · have inside : (n = 0 ∨ n > Pattern.maxRows) ↔ n = 0 := by omega
      have fits : n < UInt16.size := by omega
      simp only [if_pos short, if_pos fits, Option.bind_eq_bind, Option.bind_some, inside]
    · have outside : n = 0 ∨ n > Pattern.maxRows := by omega
      by_cases fits : n < UInt16.size
      · simp only [if_neg short, if_pos fits, Option.bind_eq_bind, Option.bind_some,
          if_pos outside]
        rfl
      · simp only [if_neg short, if_neg fits]
        rfl

theorem readTrackHeader_value (line name : String) (fields : List String) :
    readTrackHeader line (name :: fields) = .ok (Record.readTrackHeader? line fields) := by
  match fields with
  | [] | [_] | [_, _] => rfl
  | patternLength :: speed :: tempo :: rest =>
    rw [readTrackHeader, if_neg (by simp), quoted_value,
      field_value 1 patternLength rfl, field_value 2 speed rfl,
      field_value 3 tempo rfl]
    simp only [step_ok_bind, pure_eq_given, given_bind_given, natural?_limited, run_given,
      Record.readTrackHeader?]
    congr 2
    funext n
    by_cases zero : n = 0
    · subst zero
      cases Text.byte? .decimal speed with
      | none => rfl
      | some _ => cases Text.natural? .decimal UInt16.size tempo <;> rfl
    · simp only [zero, if_false]
      rfl

def readOrder (fields : List String) : Checked (Option Record) :=
  if fields.length ≠ 8 then .ok none
  else OptionT.run do
    let colon ← step (index fields 2)
    if colon ≠ ":" then given none
    else
      let frame ← field fields 1 (Text.byte? .hex)
      let texts ← step (rest fields 3)
      let slots ← given ((PerChannel.ofList? texts).bind (·.traverse? fun _ => Text.byte? .hex))
      return .order frame slots

theorem readOrder_value (name : String) (fields : List String) :
    readOrder (name :: fields) = .ok (Record.readOrder? fields) := by
  match fields with
  | [] | [_] | [_, _] | [_, _, _] | [_, _, _, _] | [_, _, _, _, _] | [_, _, _, _, _, _] => rfl
  | [frame, colon, a, b, c, d, e] =>
    have texts : rest [name, frame, colon, a, b, c, d, e] 3 = .ok [a, b, c, d, e] :=
      rest_value (by simp)
    rw [readOrder, if_neg (by simp), index_value (i := 2) (a := colon) rfl, step_ok_bind, texts,
      field_value 1 frame rfl, Record.readOrder?]
    by_cases separated : colon = ":"
    · simp only [separated, ne_eq, not_true, if_false, if_true, step_ok_bind, pure_eq_given,
        given_bind_given, run_given]
      rfl
    · simp only [ne_eq, separated, not_false_eq_true, if_true, if_false, run_given]
  | _ :: _ :: _ :: _ :: _ :: _ :: _ :: _ :: _ =>
    rw [readOrder, if_pos (by simp)]
    rfl

/-- The columns of every channel; the first that cannot be read refuses them all. -/
def eachChannel {α β : Type} (f : Channel → α → Checked (Option β)) (t : PerChannel α) :
    OptionT Checked (PerChannel β) := do
  let pulse1 ← reading (f .pulse1 t.pulse1)
  let pulse2 ← reading (f .pulse2 t.pulse2)
  let triangle ← reading (f .triangle t.triangle)
  let noise ← reading (f .noise t.noise)
  let dpcm ← reading (f .dpcm t.dpcm)
  return ⟨pulse1, pulse2, triangle, noise, dpcm⟩

theorem eachChannel_value {α β : Type} {f : Channel → α → Checked (Option β)}
    {g : Channel → α → Option β} (h : ∀ c a, f c a = .ok (g c a)) (t : PerChannel α) :
    eachChannel f t = given (t.traverse? g) := by
  simp only [eachChannel, h, reading_ok, pure_eq_given, given_bind_given]
  rfl

def readRow (fields : List String) : Checked (Option Record) :=
  if fields.length < 3 then .ok none
  else OptionT.run do
    let colon ← step (index fields 2)
    if colon ≠ ":" then given none
    else
      let number ← field fields 1 (Text.natural? .hex UInt16.size)
      let texts ← step (rest fields 3)
      let groups ← given (PerChannel.ofList? (Text.splitAtMark ":" texts))
      let columns ← eachChannel readColumns groups
      let unknown := Channel.all.filterMap fun c =>
        (columns.get c).unknownNote.map fun text => (c, text)
      return .row number (.ofFn fun c => (columns.get c).cell) unknown

theorem readRow_value (name : String) (fields : List String) :
    readRow (name :: fields) = .ok (Record.readRow? fields) := by
  match fields with
  | [] | [_] => rfl
  | number :: colon :: columns =>
    have texts : rest (name :: number :: colon :: columns) 3 = .ok columns := rest_value (by simp)
    rw [readRow, if_neg (by simp), index_value (i := 2) (a := colon) rfl, step_ok_bind, texts,
      field_value 1 number rfl, Record.readRow?]
    by_cases separated : colon = ":"
    · simp only [separated, ne_eq, not_true, if_false, if_true, step_ok_bind,
        eachChannel_value readColumns_value, pure_eq_given, given_bind_given, run_given]
      rfl
    · simp only [ne_eq, separated, not_false_eq_true, if_true, if_false, run_given]

def read (kind : Export.RecordKind) (line : String) (fields : List String) :
    Checked (Option Record) :=
  match kind with
  | .title => do
    let text ← quoted line
    return text.map .title
  | .macroDef => readMacro fields
  | .instrument => readInstrument line fields
  | .trackHeader => readTrackHeader line fields
  | .order => readOrder fields
  | .patternSelect =>
    .ok (fields[1]?.bind fun slot => (Text.byte? .hex slot).map .patternSelect)
  | .row => readRow fields

theorem read_value (kind : Export.RecordKind) (line name : String) (fields : List String) :
    read kind line (name :: fields) = .ok (Record.read? kind line fields) := by
  cases kind with
  | title =>
    rw [read, quoted_value]
    rfl
  | macroDef => exact readMacro_value name fields
  | instrument => exact readInstrument_value line name fields
  | trackHeader => exact readTrackHeader_value line name fields
  | order => exact readOrder_value name fields
  | patternSelect => cases fields <;> rfl
  | row => exact readRow_value name fields

end TuneBank.Checked
