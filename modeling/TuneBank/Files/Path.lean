import TuneBank.Text.Fields

/-! Names of files. The parts of a path stand between slashes; one slash or several make no
difference. -/

namespace TuneBank.Path

def startsAtRoot (path : String) : Bool := path.toList.head? = some '/'

def endsInSlash (path : String) : Bool := path.toList.getLast? = some '/'

/-- A file in a directory. An empty directory is the current one. -/
def join (directory file : String) : String :=
  if directory.isEmpty || endsInSlash directory then directory ++ file
  else directory ++ "/" ++ file

def names (path : String) : List String :=
  ((Text.splitAtMark '/' path.toList).filter (!·.isEmpty)).map String.ofList

end TuneBank.Path
