import TuneBank.Files.FileError

/-! Files and directories as a tree, and a walk in it that can go down by names and up again. -/

namespace TuneBank

inductive FileTool where
  | true
  | false
  | sleep
  | echo
  | printf
  | test
  | pwd
  | cat
  | cp
  | mv
  | rm
  | rmdir
  | mkdir
  | touch
  | basename
  | dirname
  | head
  | tail
  | tee
  | ls
  deriving DecidableEq

inductive Tool where
  | fileTool (u : FileTool)
  | shell (plain : Bool)
  | env
  deriving DecidableEq

inductive Node where
  | file (bytes : List UInt8) (modified : Int) (runnable : Bool)
  | tool (t : Tool)
  | sink
  | directory (modified : Int) (entries : List (String × Node))

namespace Node

def isDirectory : Node → Bool
  | directory .. => true
  | _ => false

def withEntry (dir : Node) (name : String) (n? : Option Node) : Node :=
  match dir, n? with
  | directory time entries, none => directory time (entries.filter (·.1 ≠ name))
  | directory time entries, some n =>
    if (entries.lookup name).isSome then
      directory time (entries.map fun e => if e.1 = name then (name, n) else e)
    else directory time (entries ++ [(name, n)])
  | dir, _ => dir

end Node

/-- A place in the tree with what is there, if anything. The directories that lead to it come
nearest first, each with the name that was followed in it. -/
structure Spot where
  node? : Option Node
  way : List (Node × String)

namespace Spot

def top (root : Node) : Spot := ⟨some root, []⟩

def maxName : Nat := 255

def enter (s : Spot) (name : String) : Except FileError Spot :=
  match s.node? with
  | some dir@(.directory _ entries) =>
    if name = "." then .ok s
    else if name = ".." then
      match s.way with
      | (above, _) :: way => .ok ⟨some above, way⟩
      | [] => .ok s
    else if maxName < name.utf8ByteSize then .error .nameTooLong
    else .ok ⟨entries.lookup name, (dir, name) :: s.way⟩
  | some _ => .error .notADirectory
  | none => .error .notFound

def follow (s : Spot) (names : List String) : Except FileError Spot :=
  names.foldlM enter s

def names (s : Spot) : List String := (s.way.map (·.2)).reverse

def path (s : Spot) : String := String.join (s.names.map ("/" ++ ·))

def rebuild : Option Node → List (Node × String) → Option Node
  | n?, [] => n?
  | n?, (dir, name) :: way => rebuild (some (dir.withEntry name n?)) way

end Spot

end TuneBank
