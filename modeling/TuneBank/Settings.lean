import TuneBank.Toml.Document

/-! Settings of a run. A document may set them in three tables; whatever it does not set has a
default, and unknown keys are ignored. A table may also be given as an array of its values. -/

namespace TuneBank

structure Settings where
  inputDir : String
  outputDir : String
  segment : String
  exporter : String
  skipExport : Bool
  deriving DecidableEq

namespace Settings

def fileName : String := "chippack.toml"

def default : Settings where
  inputDir := "."
  outputDir := "../output"
  segment := "DATA"
  exporter := "FamiTracker.exe"
  skipExport := false

/-- The value of a field: by its name in a table and by its place in an array. A date counts as
a table without the field. Nothing else can hold fields. -/
def field? (v : Toml.Value) (name : String) (place : Nat) : Option (Option Toml.Value) :=
  match v with
  | .table _ entries => some (entries.lookup name)
  | .array items => some items[place]?
  | .tables items => some (items[place]?.map (Toml.Value.table .headed))
  | .scalar .dateTime => some none
  | _ => none

def textField? (v : Toml.Value) (name : String) (place : Nat) (missing : String) :
    Option String :=
  match field? v name place with
  | some none => some missing
  | some (some (.text s)) => some s
  | _ => none

def boolField? (v : Toml.Value) (name : String) (place : Nat) (missing : Bool) : Option Bool :=
  match field? v name place with
  | some none => some missing
  | some (some (.scalar (.boolean b))) => some b
  | _ => none

def part (document : List (String × Toml.Value)) (name : String) : Toml.Value :=
  (document.lookup name).getD (.table .headed [])

def partNames : List String := ["input", "output", "export"]

/-- Whether an entry of the document can be read through. An array that stands for a part may
have items after those it needs, and they are not looked at. -/
def isReadable : String × Toml.Value → Bool
  | (name, .array items) => partNames.contains name || Toml.itemsInRange items
  | (_, v) => v.inRange

/-- The settings of a document; none if it is not sound, a number in it is out of range or a
setting has a value of the wrong kind. -/
def ofText? (text : String) : Option Settings := do
  let document ← Toml.document? text
  guard (document.all isReadable)
  return {
    inputDir := ← textField? (part document "input") "dir" 0 default.inputDir
    outputDir := ← textField? (part document "output") "dir" 0 default.outputDir
    segment := ← textField? (part document "output") "segment" 1 default.segment
    exporter := ← textField? (part document "export") "famitracker" 0 default.exporter
    skipExport := ← boolField? (part document "export") "skip" 1 default.skipExport }

end Settings

end TuneBank
