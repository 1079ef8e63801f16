import TuneBank.Text.Numeral

/-! Why a file could not be used. -/

namespace TuneBank

inductive FileError where
  | notFound
  | notRunnable
  | permissionDenied
  | fileExists
  | notADirectory
  | isADirectory
  | nameTooLong
  | tooManyLinks
  | nulInName
  | nulInCommand
  | notText
  | other (text : String)
  deriving DecidableEq

namespace FileError

def numbered (text : String) (number : Nat) : String :=
  text ++ " (os error " ++ Text.decimal number ++ ")"

def message : FileError → String
  | notFound => numbered "No such file or directory" 2
  | notRunnable => numbered "Exec format error" 8
  | permissionDenied => numbered "Permission denied" 13
  | fileExists => numbered "File exists" 17
  | notADirectory => numbered "Not a directory" 20
  | isADirectory => numbered "Is a directory" 21
  | nameTooLong => numbered "File name too long" 36
  | tooManyLinks => numbered "Too many levels of symbolic links" 40
  | nulInName => "file name contained an unexpected NUL byte"
  | nulInCommand => "nul byte found in provided data"
  | notText => "stream did not contain valid UTF-8"
  | other text => text

end FileError

end TuneBank
