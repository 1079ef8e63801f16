import TuneBank.CommandLine.Outcome
import TuneBank.Text.Utf8

/-! The program over the files of the system. Programs cannot be started from here, so a source
whose export is stale stops a run; exports that are up to date, or used as they are, do not. -/

namespace TuneBank.Main

def causeOf : IO.Error → FileError
  | .noFileOrDirectory .. => .notFound
  | .alreadyExists .. => .fileExists
  | .permissionDenied _ 13 _ => .permissionDenied
  | .inappropriateType _ 20 _ => .notADirectory
  | .inappropriateType _ 21 _ => .isADirectory
  | e => .other (toString e)

def attempt {α : Type} (action : IO α) : IO (Except FileError α) := do
  try return .ok (← action) catch e => return .error (causeOf e)

def nanoseconds (t : IO.FS.SystemTime) : Int := t.sec * 1000000000 + t.nsec.toNat

instance : FileStore IO where
  readText path := do
    match ← attempt (IO.FS.readBinFile path) with
    | .error cause => return .error cause
    | .ok bytes =>
      match Text.Utf8.text? bytes.toList with
      | some text => return .ok text
      | none => return .error .notText
  modified path := attempt do
    return nanoseconds (← ((← IO.currentDir) / path).metadata).modified
  makeDirectories path :=
    if path.isEmpty then return .ok () else attempt (IO.FS.createDirAll path)
  writeText path text := attempt (IO.FS.writeFile path text)

instance : Launcher IO where
  launch _ _ := return .error (.other "programs cannot be started from here")

end TuneBank.Main

def main (arguments : List String) : IO UInt32 := do
  let outcome : TuneBank.CommandLine.Outcome ← TuneBank.CommandLine.run arguments
  IO.print outcome.output
  IO.eprint outcome.errors
  return UInt32.ofNat outcome.code
