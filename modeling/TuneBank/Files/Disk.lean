import TuneBank.Files.FileStore
import TuneBank.Files.Node
import TuneBank.Files.Path
import TuneBank.Text.Utf8

/-! A tree of files and directories with a current directory. Paths are followed name by name,
each in the directory that the names before it led to. -/

namespace TuneBank

structure Disk where
  root : Node
  home : List String
  now : Int

namespace Disk

def maxPath : Nat := 4095

def checkPath (path : String) : Except FileError Unit :=
  if path.toList.contains '\x00' then .error .nulInName
  else if path.isEmpty then .error .notFound
  else if maxPath < path.utf8ByteSize then .error .nameTooLong
  else .ok ()

def origin (d : Disk) (path : String) : Except FileError Spot :=
  if Path.startsAtRoot path then .ok (.top d.root) else (Spot.top d.root).follow d.home

/-- The place of a path. One that ends in a slash has to lead to a directory. -/
def locate (d : Disk) (path : String) : Except FileError Spot := do
  checkPath path
  let names := Path.names path
  (← d.origin path).follow (if Path.endsInSlash path then names ++ ["."] else names)

def find (d : Disk) (path : String) : Except FileError Node := do
  match (← d.locate path).node? with
  | none => throw .notFound
  | some n => return n

def replace (d : Disk) (s : Spot) (n? : Option Node) : Disk :=
  { d with root := (Spot.rebuild n? s.way).getD d.root }

def modified (d : Disk) (path : String) : Except FileError Int := do
  match ← d.find path with
  | .file _ time _ => return time
  | .directory time _ => return time
  | .tool _ => return 0
  | .sink => return d.now

def readBytes (d : Disk) (path : String) : Except FileError (List UInt8) := do
  match ← d.find path with
  | .file bytes _ _ => return bytes
  | .tool _ => throw .notText
  | .sink => return []
  | .directory .. => throw .isADirectory

def readText (d : Disk) (path : String) : Except FileError String := do
  match Text.Utf8.text? (← d.readBytes path) with
  | some text => return text
  | none => throw .notText

/-- Write a whole file. A file that is there stays as runnable as it was; a new one is as
runnable as asked for. -/
def writeBytes (d : Disk) (path : String) (bytes : List UInt8) (runnable : Bool) :
    Except FileError Disk := do
  checkPath path
  match (Path.names path).reverse with
  | [] => throw .isADirectory
  | name :: above =>
    let directory ← (← d.origin path).follow above.reverse
    if Path.endsInSlash path then throw .isADirectory
    let spot ← directory.enter name
    match spot.node? with
    | some (.directory ..) => throw .isADirectory
    | some .sink => return d
    | some (.file _ _ before) => return d.replace spot (some (.file bytes d.now before))
    | _ => return d.replace spot (some (.file bytes d.now runnable))

def makeDirectory (d : Disk) (start : Spot) : List String → Except FileError Disk
  | [] => .error .fileExists
  | name :: above => do
    let spot ← (← start.follow above.reverse).enter name
    if spot.node?.isSome then throw .fileExists
    return d.replace spot (some (.directory d.now []))

/-- The names of the directory above. Dots stand for no step. The last name comes first. -/
def above (names : List String) : List String :=
  ((names.dropWhile (· = ".")).tail).dropWhile (· = ".")

theorem length_above_lt {names : List String} (h : names ≠ []) :
    (above names).length < names.length := by
  have outer := (List.dropWhile_suffix (l := (names.dropWhile (· = ".")).tail) (· = ".")).length_le
  have inner := (List.dropWhile_suffix (l := names) (· = ".")).length_le
  have := List.length_pos_iff.mpr h
  simp only [above, List.length_tail] at outer ⊢
  omega

def ensureDirectory (d : Disk) (path : String) (names : List String) : Except FileError Disk := do
  let start ← d.origin path
  match d.makeDirectory start names with
  | .error .fileExists =>
    match start.follow names.reverse with
    | .ok ⟨some (.directory ..), _⟩ => return d
    | _ => throw .fileExists
  | result => result

/-- Make a directory; where the way to it is missing, first the one above. What is made before
an error stays. The last name comes first. -/
def makeAll (path : String) (names : List String) (d : Disk) : Except FileError Unit × Disk :=
  if _h : names = [] then (.ok (), d)
  else
    match d.ensureDirectory path names with
    | .ok d => (.ok (), d)
    | .error .notFound =>
      match makeAll path (above names) d with
      | (.error e, d) => (.error e, d)
      | (.ok (), d) =>
        match d.ensureDirectory path names with
        | .ok d => (.ok (), d)
        | .error e => (.error e, d)
    | .error e => (.error e, d)
termination_by names.length
decreasing_by exact length_above_lt _h

/-- Make a directory and those above it. An empty path asks for nothing. -/
def makeDirectories (d : Disk) (path : String) : Except FileError Unit × Disk :=
  if path.isEmpty then (.ok (), d)
  else
    match checkPath path with
    | .error e => (.error e, d)
    | .ok () => makeAll path (Path.names path).reverse d

/-- Put a file with the time it was written, and the directories above it. A file that was
runnable stays so. -/
def put (d : Disk) (path : String) (bytes : List UInt8) (time : Int) (runnable : Bool) : Disk :=
  let d := (makeAll path (Path.names path).reverse.tail d).2
  match d.writeBytes path bytes runnable with
  | .error _ => d
  | .ok d =>
    match d.locate path with
    | .ok spot =>
      match spot.node? with
      | some (.file bytes _ before) => d.replace spot (some (.file bytes time (before || runnable)))
      | _ => d
    | .error _ => d

def remove (d : Disk) (path : String) : Disk :=
  match d.locate path with
  | .error _ => d
  | .ok spot => d.replace spot none

instance : FileStore (StateM Disk) where
  readText path := fun d => (d.readText path, d)
  modified path := fun d => (d.modified path, d)
  makeDirectories path := fun d => d.makeDirectories path
  writeText path text := fun d =>
    match d.writeBytes path text.toUTF8.toList false with
    | .ok d => (.ok (), d)
    | .error e => (.error e, d)

end Disk

end TuneBank
