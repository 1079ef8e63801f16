import TuneBank.Files.Disk

/-! Programs that run on the computer of `Files.Program`. What a program prints goes to a screen, to
a file or to the program that reads it next. -/

namespace TuneBank

inductive Stream where
  | screen
  | problems
  | file (path : String)
  | pipe
  deriving DecidableEq

structure Process where
  disk : Disk
  input : List UInt8
  outputs : List (Nat × Stream)
  environment : List (String × String)
  screen : List UInt8
  problems : List UInt8
  pipe : List UInt8

namespace Process

def start (d : Disk) : Process := ⟨d, [], [(1, .screen), (2, .problems)], [], [], [], []⟩

def append (d : Disk) (path : String) (bytes : List UInt8) : Disk :=
  match d.readBytes path with
  | .error _ => d
  | .ok before =>
    match d.writeBytes path (before ++ bytes) false with
    | .ok d => d
    | .error _ => d

def write? (p : Process) (descriptor : Nat) (bytes : List UInt8) : Option Process :=
  match p.outputs.lookup descriptor with
  | none => none
  | some .screen => some { p with screen := p.screen ++ bytes }
  | some .problems => some { p with problems := p.problems ++ bytes }
  | some .pipe => some { p with pipe := p.pipe ++ bytes }
  | some (.file path) => some { p with disk := append p.disk path bytes }

def complain (p : Process) (text : String) : Process :=
  (p.write? 2 (text ++ "\n").toUTF8.toList).getD p

abbrev Ended := Process × Nat

def succeed (p : Process) : Ended := (p, 0)

def fail (p : Process) (text : String) : Ended := (p.complain text, 1)

def finish (p : Process) (bytes : List UInt8) (status : Nat) : Ended :=
  match p.write? 1 bytes with
  | some p => (p, status)
  | none => (p, 1)

end Process

def FileError.reason : FileError → String
  | .notFound => "No such file or directory"
  | .permissionDenied => "Permission denied"
  | .fileExists => "File exists"
  | .notADirectory => "Not a directory"
  | .isADirectory => "Is a directory"
  | .nameTooLong => "File name too long"
  | .tooManyLinks => "Too many levels of symbolic links"
  | .notRunnable => "Exec format error"
  | e => e.message

namespace Disk

def directoryAt (d : Disk) (path : String) : Bool :=
  match d.find path with
  | .ok n => n.isDirectory
  | .error _ => false

/-- Open a file for writing, and keep what it holds if asked for. Gives its path from the root. -/
def openFile (d : Disk) (path : String) (keep : Bool) : Except FileError (Disk × String) := do
  let d ← match keep, d.find path with
    | true, .ok (.file ..) => pure d
    | _, _ => d.writeBytes path [] false
  return (d, (← d.locate path).path)

def place (d : Disk) (path : String) (n : Node) : Except FileError Disk := do
  let spot ← d.locate path
  match spot.way with
  | [] => throw .fileExists
  | _ => return d.replace spot (some n)

end Disk

end TuneBank
