import TuneBank.CommandLine.Outcome
import TuneBank.Shell.Run

/-! A computer on which exporters can be started. A program is a tool of the system or a runnable
file whose first line names the program that interprets it.

Runs ask for a `Launcher` and no more, so nothing that is said of them depends on this module, on
the programs of the system or on the shell. -/

namespace TuneBank.Program

structure Interpreter where
  path : String
  argument? : Option String
  deriving DecidableEq

def headSize : Nat := 256

def isBlank (b : UInt8) : Bool := b = 0x20 || b = 0x09

def isLineEnd (b : UInt8) : Bool := b = 0x0A

/-- The rest of a first line, read from the head after its mark. A line that does not end in the
head is cut there, if the name of the interpreter ends before. -/
def line? (head : List UInt8) : Option (List UInt8) :=
  if head.any isLineEnd then some (head.takeWhile fun b => !isLineEnd b)
  else if (head.dropWhile isBlank).any fun b => isBlank b || b = 0 then some head.dropLast
  else none

def dropTrailing (p : UInt8 → Bool) (bs : List UInt8) : List UInt8 :=
  (bs.reverse.dropWhile p).reverse

/-- The name of the interpreter, and one argument after a blank; both end at a zero byte. -/
def ofLine? (line : List UInt8) : Option Interpreter :=
  match (dropTrailing isBlank line).dropWhile isBlank with
  | [] => none
  | bs =>
    let (name, rest) := bs.span fun b => !isBlank b && b ≠ 0
    let argument? := match rest with
      | b :: _ =>
        if isBlank b then some ((rest.dropWhile isBlank).takeWhile (· ≠ 0)) else none
      | [] => none
    some ⟨Text.Utf8.repaired name, argument?.map Text.Utf8.repaired⟩

/-- The interpreter of a file. What is missing of the head counts as zero bytes. -/
def interpreter? (bytes : List UInt8) : Option Interpreter :=
  match (bytes ++ List.replicate headSize 0).take headSize with
  | 0x23 :: 0x21 :: head => (line? head).bind ofLine?
  | _ => none

def directories : List String := ["/usr/bin", "/bin"]

structure Command where
  tool : Tool
  name : String
  arguments : List String

/-- The tool that the program at a path leads to. At most `links` interpreters may be on the way.
A program keeps the name that it was asked for by, unless it interprets another. -/
def resolve (d : Disk) : Nat → String → String → List String → Except FileError Command
  | links, path, name, arguments => do
    match ← d.find path, links with
    | .directory .., _ => throw .permissionDenied
    | .sink, _ => throw .permissionDenied
    | .file _ _ false, _ => throw .permissionDenied
    | _, 0 => throw .tooManyLinks
    | .tool t, _ => return ⟨t, name, arguments⟩
    | .file bytes _ true, links + 1 =>
      match interpreter? bytes with
      | none => throw .notRunnable
      | some i => resolve d links i.path i.path (i.argument?.toList ++ path :: arguments)

def maxLinks : Nat := 6

/-- Try directories in turn. A program that may not be run is remembered. -/
def search (d : Disk) (program : String) (arguments : List String) (denied : Bool) :
    List String → Except FileError Command
  | [] => .error (if denied then .permissionDenied else .notFound)
  | dir :: dirs =>
    match resolve d maxLinks (Path.join dir program) program arguments with
    | .error .notFound => search d program arguments denied dirs
    | .error .notADirectory => search d program arguments denied dirs
    | .error .permissionDenied => search d program arguments true dirs
    | result => result

def command (d : Disk) (program : String) (arguments : List String) : Except FileError Command :=
  if program.isEmpty then .error .notFound
  else if program.toList.contains '/' then resolve d maxLinks program program arguments
  else search d program arguments false directories

/-- An argument that starts with `-S` stands for all words in it. -/
def splitWords : List String → List String
  | [] => []
  | a :: arguments =>
    match a.toList with
    | '-' :: 'S' :: words => Text.fields (String.ofList words) ++ arguments
    | _ => a :: arguments

def withVariable (p : Process) (setting : String) : Process :=
  let (name, value) := setting.toList.span (· ≠ '=')
  let name := String.ofList name
  { p with environment :=
      (name, String.ofList value.tail) :: p.environment.filter fun v => v.1 ≠ name }

def runEnv (start : Starter) (name : String) (p : Process) (arguments : List String) :
    Process.Ended :=
  let (settings, arguments) := (splitWords arguments).span fun a => a.toList.contains '='
  match arguments with
  | [] => (p, 0)
  | program :: arguments =>
    match start (settings.foldl withVariable p) program arguments with
    | .ok ended => ended
    | .error e =>
      (p.complain (name ++ ": " ++ FileTools.quoted program ++ ": " ++ e.reason),
        if e = .notFound then 127 else 126)

def Command.run (start : Starter) (c : Command) (p : Process) : Process.Ended :=
  match c.tool with
  | .fileTool u => FileTools.perform u c.name p c.arguments
  | .shell plain => Shell.main start plain c.name p c.arguments
  | .env => runEnv start c.name p c.arguments

def maxPrograms : Nat := 100

def start : Nat → Starter
  | 0, _, _, _ => .error (.other "Resource temporarily unavailable")
  | programs + 1, p, program, arguments => do
    return (← command p.disk program arguments).run (start programs) p

/-- Start a program with its own process. Its name and its arguments hold no zero byte. -/
def launch (d : Disk) (program : String) (arguments : List String) : Except FileError Process :=
  if (program :: arguments).any (·.toList.contains '\x00') then .error .nulInCommand
  else
    match start maxPrograms (.start d) program arguments with
    | .ok (p, _) => .ok p
    | .error e => .error e

def tools : List (String × Node) :=
  [ ("true", .fileTool .true), ("false", .fileTool .false), ("sleep", .fileTool .sleep),
    ("echo", .fileTool .echo), ("printf", .fileTool .printf), ("test", .fileTool .test),
    ("pwd", .fileTool .pwd), ("cat", .fileTool .cat), ("cp", .fileTool .cp), ("mv", .fileTool .mv),
    ("rm", .fileTool .rm), ("rmdir", .fileTool .rmdir), ("mkdir", .fileTool .mkdir),
    ("touch", .fileTool .touch),
    ("basename", .fileTool .basename), ("dirname", .fileTool .dirname), ("head", .fileTool .head),
    ("tail", .fileTool .tail), ("tee", .fileTool .tee), ("ls", .fileTool .ls),
    ("sh", .shell false), ("dash", .shell false), ("bash", .shell true), ("env", .env)
  ].map fun (name, t) => (name, .tool t)

def system (now : Int) : Disk :=
  let directory (entries : List (String × Node)) : Node := .directory now entries
  { root := directory
      [ ("bin", directory tools),
        ("dev", directory [("null", .sink)]),
        ("etc", directory []),
        ("tmp", directory [("run", directory [("work", directory [])])]),
        ("usr", directory [("bin", directory tools)]) ]
    home := ["tmp", "run", "work"]
    now := now }

end Program

structure Computer where
  disk : Disk
  screen : List UInt8
  problems : List UInt8

namespace Computer

def start (d : Disk) : Computer := ⟨d, [], []⟩

def onDisk {α : Type} (action : StateM Disk α) : StateM Computer α := fun c =>
  let (a, d) := action.run c.disk
  (a, { c with disk := d })

instance : FileStore (StateM Computer) where
  readText path := onDisk (FileStore.readText path)
  modified path := onDisk (FileStore.modified path)
  makeDirectories path := onDisk (FileStore.makeDirectories path)
  writeText path text := onDisk (FileStore.writeText path text)

instance : Launcher (StateM Computer) where
  launch program arguments := fun c =>
    match Program.launch c.disk program arguments with
    | .ok p =>
      (.ok (), ⟨{ p.disk with home := c.disk.home }, c.screen ++ p.screen,
        c.problems ++ p.problems⟩)
    | .error e => (.error e, c)

end Computer

def CommandLine.Outcome.after (o : Outcome) (c : Computer) : Outcome :=
  { o with
    output := Text.Utf8.repaired c.screen ++ o.output
    errors := Text.Utf8.repaired c.problems ++ o.errors }

end TuneBank
