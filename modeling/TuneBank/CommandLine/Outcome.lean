import TuneBank.CommandLine.Arguments
import TuneBank.Inspection
import TuneBank.Run

/-! The commands, and what the program prints and returns for them. -/

namespace TuneBank.CommandLine

structure Outcome where
  code : Nat
  output : String
  errors : String
  deriving DecidableEq

namespace Outcome

def causeLines : List String → List String
  | [] => []
  | [cause] => ["", "Caused by:", "    " ++ cause]
  | causes =>
    ["", "Caused by:"] ++ causes.mapIdx fun i cause => "    " ++ Text.decimal i ++ ": " ++ cause

def failed (output message : String) (causes : List String) : Outcome :=
  ⟨1, output, Text.unlines (("Error: " ++ message) :: causeLines causes)⟩

def stopped (step : String) (e : RunError) : Outcome :=
  failed "" step (e.message :: (e.cause?.map FileError.message).toList)

def usage : String :=
  Text.unlines [
    "Usage: cp-cli pack [CONFIG] [--input DIR] [--output DIR] [--famitracker PROGRAM]",
    "                   [--skip-export] [--strict]",
    "       cp-cli inspect FILE [--track N] [--sfx]" ]

def ofStop : Stop → Outcome
  | .help => ⟨0, usage, ""⟩
  | .version => ⟨0, "cp-cli 0.1.0\n", ""⟩
  | .misuse => ⟨2, "", usage⟩

/-- A run that came to its end. Reported problems are shown, and a strict run fails on them. -/
def packed (set : PackedSet) (files : Nat) (strict : Bool) : Outcome :=
  let done := "Packed " ++ Text.decimal set.songs.length ++ " songs and "
    ++ Text.decimal set.pool.sfx.length ++ " sound effects into " ++ Text.decimal files
    ++ " files.\n"
  if set.report.isEmpty then ⟨0, done, ""⟩
  else
    let output := done ++ "\nReported errors:\n" ++ set.report.text
    if strict then failed output (Text.decimal set.report.size ++ " errors reported") []
    else ⟨0, output, ""⟩

end Outcome

variable {m : Type → Type} [Monad m] [FileStore m]

def inspect (o : InspectOptions) : m Outcome := do
  match ← FileStore.readText o.file with
  | .error cause => return .failed "" ("Failed to read " ++ o.file) [cause.message]
  | .ok text =>
    return ⟨0, Text.unlines (Inspection.lines (Export.load text o.track) o.asSfx), ""⟩

variable [Launcher m]

def pack (o : PackOptions) : m Outcome := do
  match ← Settings.load o.settings with
  | .error e => return .stopped ("Failed to load " ++ o.settings) e
  | .ok settings =>
    let settings := o.override settings
    match ← Batch.new.run settings (Exporter.program settings.exporter) with
    | (.error e, _) => return .stopped "Batch run failed" e
    | (.ok (), b) =>
      match ← b.set.write settings.outputDir settings.segment with
      | .error e => return .stopped "Failed to write artifacts" e
      | .ok files => return .packed b.set files.length o.strict

def run (arguments : List String) : m Outcome := do
  match Command.read arguments with
  | .error stop => return .ofStop stop
  | .ok (.pack o) => pack o
  | .ok (.inspect o) => inspect o

end TuneBank.CommandLine
