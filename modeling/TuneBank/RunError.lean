import TuneBank.Files.FileError

/-! What stops a run. Problems inside a track never do; they are reported. -/

namespace TuneBank

inductive RunError where
  | read (path : String) (cause : FileError)
  | write (path : String) (cause : FileError)
  | exporter (program : String) (cause : FileError)
  | settings (path : String)
  deriving DecidableEq

namespace RunError

def message : RunError → String
  | read path _ => "failed to read " ++ path
  | write path _ => "failed to write " ++ path
  | exporter program _ => "failed to run exporter " ++ program
  | settings path => "invalid config " ++ path

def cause? : RunError → Option FileError
  | read _ cause => some cause
  | write _ cause => some cause
  | exporter _ cause => some cause
  | settings _ => none

end RunError

end TuneBank
