import TuneBank.Files.FileError

/-! What the rest of the project needs of files. -/

namespace TuneBank

class FileStore (m : Type → Type) where
  readText : String → m (Except FileError String)
  /-- When a file or a directory was written last; later times are larger. -/
  modified : String → m (Except FileError Int)
  makeDirectories : String → m (Except FileError Unit)
  writeText : String → String → m (Except FileError Unit)

class Launcher (m : Type → Type) where
  /-- Run a program with arguments to its end. Only that it cannot be started is an error. -/
  launch : String → List String → m (Except FileError Unit)

def FileStore.exists {m : Type → Type} [Monad m] [FileStore m] (path : String) : m Bool :=
  return (← FileStore.modified path).isOk

end TuneBank
