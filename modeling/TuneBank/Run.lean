import TuneBank.Listing.Music
import TuneBank.Listing.Symbols
import TuneBank.Settings
import TuneBank.Sizes
import TuneBank.Source

/-! A run over files: settings say where the sources are, every source is exported if need be and
added to a batch, and what the batch holds is written. The batch remembers what was added before
an error stopped the run. -/

namespace TuneBank

variable {m : Type → Type} [Monad m] [FileStore m]

/-- The settings in a file. A file that is missing gives the default ones. -/
def Settings.load (path : String) : m (Except RunError Settings) := do
  match ← FileStore.readText path with
  | .error .notFound => return .ok Settings.default
  | .error cause => return .error (.read path cause)
  | .ok text =>
    match Settings.ofText? text with
    | some s => return .ok s
    | none => return .error (.settings path)

namespace Batch

def addFile (b : Batch) (kind : SourceKind) (path : String) : m (Except RunError Nat × Batch) := do
  match ← FileStore.readText path with
  | .error cause => return (.error (.read path cause), b)
  | .ok text =>
    let (b, index) := b.add kind path text
    return (.ok index, b)

def addExport (b : Batch) (s : Source) : m Batch := do
  match ← FileStore.readText s.text with
  | .error cause =>
    return b.noteUnreadable s.text ("failed to read text export: " ++ cause.message)
  | .ok text => return (b.add s.kind s.text text).1

/-- Add sources one after another; without an exporter their exports stay as they are. -/
def addSources (exporter? : Option (Exporter m)) (b : Batch) :
    List Source → m (Except RunError Unit × Batch)
  | [] => return (.ok (), b)
  | s :: rest => do
    match exporter? with
    | none => addSources exporter? (← b.addExport s) rest
    | some exporter =>
      match ← s.refresh exporter with
      | .error e => return (.error e, b)
      | .ok _ => addSources exporter? (← b.addExport s) rest

/-- Add every source that the settings point at, songs before sound effects. -/
def run (b : Batch) (settings : Settings) (exporter : Exporter m) :
    m (Except RunError Unit × Batch) := do
  let exporter? := if settings.skipExport then none else some exporter
  let add (b : Batch) (kind : SourceKind) : m (Except RunError Unit × Batch) := do
    b.addSources exporter? (← Source.discover kind settings.inputDir settings.outputDir)
  match ← FileStore.makeDirectories settings.outputDir with
  | .error cause => return (.error (.write settings.outputDir cause), b)
  | .ok () =>
    match ← add b .music with
    | (.error e, b) => return (.error e, b)
    | (.ok (), b) => add b .sfx

end Batch

namespace PackedSet

def files (set : PackedSet) (segment : String) : List (String × String) :=
  [ ("data_music.inc", Listing.text (Listing.music set segment)),
    ("data_music_enums.inc", Listing.text (Listing.symbols set)),
    ("music_stats.txt", Statistics.text set) ]

def writeFiles (directory : String) : List (String × String) → m (Except RunError (List String))
  | [] => return .ok []
  | (name, text) :: rest => do
    let path := Path.join directory name
    match ← FileStore.writeText path text with
    | .error cause => return .error (.write path cause)
    | .ok () => return (← writeFiles directory rest).map (path :: ·)

def write (set : PackedSet) (directory segment : String) : m (Except RunError (List String)) := do
  match ← FileStore.makeDirectories directory with
  | .error cause => return .error (.write directory cause)
  | .ok () => writeFiles directory (set.files segment)

end PackedSet

end TuneBank
