import TuneBank.Export.Column
import TuneBank.Text.Fields
import TuneBank.Track

/-! The lines of a text export. The first field of a line names the kind of its record; blank
lines, comments and kinds that the packer has no use for are ignored. -/

namespace TuneBank.Export

inductive RecordKind where
  | title
  | macroDef
  | instrument
  | trackHeader
  | order
  | patternSelect
  | row
  deriving DecidableEq

namespace RecordKind

def all : List RecordKind :=
  [title, macroDef, instrument, trackHeader, order, patternSelect, row]

def name : RecordKind → String
  | title => "TITLE"
  | macroDef => "MACRO"
  | instrument => "INST2A03"
  | trackHeader => "TRACK"
  | order => "ORDER"
  | patternSelect => "PATTERN"
  | row => "ROW"

def ofName? (s : String) : Option RecordKind := all.find? (·.name = s)

theorem ofName?_name (k : RecordKind) : ofName? k.name = some k := by
  cases k <;> decide

/-- Records that belong to one track of a file and not to the file. -/
def isSectioned : RecordKind → Bool
  | order | patternSelect | row => true
  | _ => false

end RecordKind

structure MacroRecord where
  kind : MacroKind
  index : UInt8
  loopPoint : Int
  release : Int
  mode : Int
  values : List Int8
  deriving DecidableEq

inductive Record where
  | title (text : String)
  | macroDef (m : MacroRecord)
  | instrument (index : UInt8) (i : Instrument)
  | trackHeader (patternLength : Nat) (speed : UInt8) (tempo : Nat) (name : String)
  | order (frame : UInt8) (slots : Frame)
  | patternSelect (slot : UInt8)
  | row (row : Nat) (cells : PerChannel Cell) (unknownNotes : List (Channel × String))
  deriving DecidableEq

namespace Record

def kind : Record → RecordKind
  | title _ => .title
  | macroDef _ => .macroDef
  | instrument _ _ => .instrument
  | trackHeader _ _ _ _ => .trackHeader
  | order _ _ => .order
  | patternSelect _ => .patternSelect
  | row _ _ _ => .row

/-- Macro values follow a colon or their count. -/
def macroValues? : List String → Option (List String)
  | [] => some []
  | lead :: values =>
    if lead = ":" then some values
    else match Text.natural? .decimal UInt64.size lead with
      | some count => if count = values.length then some values else none
      | none => none

def readMacro? : List String → Option Record
  | kind :: index :: loopPoint :: release :: mode :: rest => do
    let kind ← (Text.natural? .decimal UInt64.size kind).bind MacroKind.ofIndex?
    let index ← Text.byte? .decimal index
    let loopPoint ← Text.integer? 32 loopPoint
    let release ← Text.integer? 32 release
    let mode ← Text.integer? 32 mode
    let values ← (← macroValues? rest).mapM (Text.integer? 8)
    return .macroDef ⟨kind, index, loopPoint, release, mode, values.map Int8.ofInt⟩
  | _ => none

/-- A macro number of an instrument; any negative number stands for none. -/
def readReference? (text : String) : Option (Option UInt8) :=
  match Text.integer? 16 text with
  | none => none
  | some n =>
    if n < 0 then some none
    else if n < 256 then some (some (UInt8.ofNat n.toNat))
    else none

def readInstrument? (line : String) : List String → Option Record
  | index :: volume :: arpeggio :: pitch :: hiPitch :: duty :: _ :: _ => do
    let index ← Text.byte? .decimal index
    let macros ← (PerKind.mk volume arpeggio pitch hiPitch duty).traverse? readReference?
    let name ← Text.quoted? line
    return .instrument index ⟨name, macros⟩
  | _ => none

def readTrackHeader? (line : String) : List String → Option Record
  | patternLength :: speed :: tempo :: _ => do
    let patternLength ← Text.natural? .decimal (Pattern.maxRows + 1) patternLength
    let speed ← Text.byte? .decimal speed
    let tempo ← Text.natural? .decimal UInt16.size tempo
    if patternLength = 0 then none
    else return .trackHeader patternLength speed tempo ((Text.quoted? line).getD "")
  | _ => none

def readOrder? : List String → Option Record
  | [frame, colon, a, b, c, d, e] =>
    if colon = ":" then do
      let frame ← Text.byte? .hex frame
      let slots ← (PerChannel.mk a b c d e).traverse? fun _ => Text.byte? .hex
      return .order frame slots
    else none
  | _ => none

def readPatternSelect? : List String → Option Record
  | slot :: _ => (Text.byte? .hex slot).map .patternSelect
  | [] => none

def readRow? : List String → Option Record
  | number :: colon :: rest =>
    if colon = ":" then do
      let number ← Text.natural? .hex UInt16.size number
      let groups ← PerChannel.ofList? (Text.splitAtMark ":" rest)
      let columns ← groups.traverse? readColumns?
      let unknown := Channel.all.filterMap fun c =>
        (columns.get c).unknownNote.map fun text => (c, text)
      return .row number (.ofFn fun c => (columns.get c).cell) unknown
    else none
  | _ => none

/-- A record of a known kind, from its line and the fields after the first. -/
def read? (kind : RecordKind) (line : String) (fields : List String) : Option Record :=
  match kind with
  | .title => (Text.quoted? line).map .title
  | .macroDef => readMacro? fields
  | .instrument => readInstrument? line fields
  | .trackHeader => readTrackHeader? line fields
  | .order => readOrder? fields
  | .patternSelect => readPatternSelect? fields
  | .row => readRow? fields

end Record

inductive Decoded where
  | ignored
  | malformed (kind : RecordKind)
  | record (r : Record)

def decode (line : String) : Decoded :=
  match Text.fields line with
  | [] => .ignored
  | name :: fields =>
    match RecordKind.ofName? name with
    | none => .ignored
    | some kind =>
      match Record.read? kind line fields with
      | some r => .record r
      | none => .malformed kind

end TuneBank.Export
