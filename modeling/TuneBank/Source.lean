import TuneBank.Batch
import TuneBank.Files.FileStore
import TuneBank.Files.Path
import TuneBank.RunError

/-! The sources of a run and their text exports. Sources of a kind are numbered without gaps; the
export of a source and the log of the exporter have its name, in the output directory. -/

namespace TuneBank

namespace SourceKind

def stem : SourceKind → String
  | music => "music"
  | sfx => "sfx"

/-- Sound effect 0 is the silent one, which has no source. -/
def firstNumber : SourceKind → Nat
  | music => 0
  | sfx => 1

end SourceKind

structure Source where
  kind : SourceKind
  number : Nat
  file : String
  text : String
  log : String
  deriving DecidableEq

abbrev Exporter (m : Type → Type) := Source → m (Except RunError Unit)

/-- The exporter that runs a program. What the program makes of its task does not matter: an
export from before can still be used. -/
def Exporter.program {m : Type → Type} [Monad m] [Launcher m] (program : String) : Exporter m :=
  fun s => do
    match ← Launcher.launch program [s.file, "-export", s.text, s.log] with
    | .ok () => return .ok ()
    | .error cause => return .error (.exporter program cause)

namespace Source

def numberLimit : Nat := 100

def named (kind : SourceKind) (number : Nat) (inputDir outputDir : String) : Source :=
  let name := kind.stem ++ "_" ++ Text.twoDigits number
  { kind := kind
    number := number
    file := Path.join inputDir (name ++ ".ftm")
    text := Path.join outputDir (name ++ ".txt")
    log := Path.join outputDir (name ++ "_log.txt") }

def candidates (kind : SourceKind) (inputDir outputDir : String) : List Source :=
  ((List.range numberLimit).drop kind.firstNumber).map (named kind · inputDir outputDir)

variable {m : Type → Type} [Monad m] [FileStore m]

/-- The sources before the first whose file is missing. -/
def present : List Source → m (List Source)
  | [] => return []
  | s :: rest => do
    if ← FileStore.exists s.file then return s :: (← present rest)
    return []

def discover (kind : SourceKind) (inputDir outputDir : String) : m (List Source) :=
  present (candidates kind inputDir outputDir)

/-- Whether the export is missing or older than the source. -/
def isStale (s : Source) : m (Except FileError Bool) := do
  match ← FileStore.modified s.text with
  | .error .notFound => return .ok true
  | .error cause => return .error cause
  | .ok textTime =>
    match ← FileStore.modified s.file with
    | .error cause => return .error cause
    | .ok fileTime => return .ok (decide (textTime < fileTime))

/-- Export a source again if its export is stale, and say whether it was. -/
def refresh (exporter : Exporter m) (s : Source) : m (Except RunError Bool) := do
  match ← s.isStale with
  | .error cause => return .error (.read s.file cause)
  | .ok false => return .ok false
  | .ok true =>
    match ← exporter s with
    | .error e => return .error e
    | .ok () => return .ok true

end Source

end TuneBank
