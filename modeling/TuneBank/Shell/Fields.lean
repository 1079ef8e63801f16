import TuneBank.Files.Disk
import TuneBank.Shell.Pattern

/-! From expanded words to arguments: what came out of unquoted parts is cut into fields, and a
field that is meant as a pattern becomes the paths that it matches. -/

namespace TuneBank.Shell

inductive Glyph where
  | letter (l : Letter) (cuts : Bool)
  | mark
  | next
  deriving DecidableEq

namespace Fields

def quoted (text : String) : List Glyph :=
  .mark :: text.toList.map fun c => .letter ⟨c, true⟩ false

def plain (text : String) : List Glyph := text.toList.map fun c => .letter ⟨c, false⟩ true

def value (isQuoted : Bool) (text : String) : List Glyph :=
  if isQuoted then quoted text else plain text

def arguments (isQuoted apart : Bool) (between : List Char) (words : List String) : List Glyph :=
  if isQuoted && !apart then quoted ((String.ofList (between.take 1)).intercalate words)
  else ((words.map (value isQuoted)).intersperse [.next]).flatten

def letters (gs : List Glyph) : List Letter :=
  gs.filterMap fun
    | .letter l _ => some l
    | .mark => none
    | .next => some ⟨' ', false⟩

def text (ls : List Letter) : String := String.ofList (ls.map (·.char))

/-- A word that may be cut wherever it is not quoted. -/
def cuttable (gs : List Glyph) : List Glyph :=
  gs.map fun
    | .letter l cuts => .letter l (cuts || !l.quoted)
    | g => g

structure Cutting where
  done : List (List Letter)
  current? : Option (List Letter)
  afterBlank : Bool

def Cutting.close (c : Cutting) (blank : Bool) : Cutting :=
  match c.current? with
  | some field => ⟨field.reverse :: c.done, none, blank⟩
  | none => { c with afterBlank := blank }

def Cutting.take (separators : List Char) (c : Cutting) : Glyph → Cutting
  | .mark => ⟨c.done, some (c.current?.getD []), false⟩
  | .next => c.close false
  | .letter l cuts =>
    if cuts && separators.contains l.char then
      if l.char = ' ' || l.char = '\t' || l.char = '\n' then
        if c.current?.isSome then c.close true else c
      else if c.current?.isNone && !c.afterBlank then ⟨[] :: c.done, none, false⟩
      else c.close false
    else ⟨c.done, some (l :: c.current?.getD []), false⟩

def cut (separators : List Char) (gs : List Glyph) : List (List Letter) :=
  ((gs.foldl (Cutting.take separators) ⟨[], none, false⟩).close false).done.reverse

def components : List Letter → List (List Letter)
  | [] => [[]]
  | l :: ls =>
    match components ls with
    | [] => [[l]]
    | c :: cs => if l.char = '/' then [] :: c :: cs else (l :: c) :: cs

/-- The names in a directory that a pattern matches, in order. A dot at the start has to be
matched by a dot. -/
def namesAt (d : Disk) (directory : String) (ls : List Letter) : List String :=
  match d.find (if directory.isEmpty then "." else directory) with
  | .ok (.directory _ entries) =>
    let fits (name : String) : Bool :=
      (Pattern.ofLetters ls).accepts name.toList
        && (name.toList.head? ≠ some '.' || (ls.head?.map (·.char)) = some '.')
    ((entries.map (·.1)).filter fits).mergeSort fun a b => decide (a ≤ b)
  | _ => []

def paths (d : Disk) (start : String) : List (List Letter) → List String
  | [] => [start]
  | [last] =>
    if Pattern.isMeant last then (namesAt d start last).map (start ++ ·)
    else
      let path := start ++ text last
      if (d.find path).isOk then [path] else []
  | c :: cs =>
    let names := if Pattern.isMeant c then namesAt d start c else [text c]
    names.flatMap fun name => paths d (start ++ name ++ "/") cs

/-- The paths that a field stands for; itself if it matches none. -/
def expanded (d : Disk) (field : List Letter) : List String :=
  if Pattern.isMeant field then
    match paths d "" (components field) with
    | [] => [text field]
    | found => found
  else [text field]

end Fields

end TuneBank.Shell
