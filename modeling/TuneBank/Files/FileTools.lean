import TuneBank.Files.Process
import TuneBank.Shell.Format

/-! The programs of the system that work on files, as exporters use them on the computer of
`Files.Program`. What they cannot do they say, and go on with the next of their arguments. -/

namespace TuneBank.FileTools

open Process (Ended)

structure Given where
  program : String
  letters : List Char
  words : List String

/-- Read arguments. Letters stand after a dash; two dashes end them. -/
def given (program : String) : List String → Given
  | [] => ⟨program, [], []⟩
  | a :: arguments =>
    if a = "--" then ⟨program, [], arguments⟩
    else
      let g := given program arguments
      match a.toList with
      | '-' :: c :: cs => { g with letters := c :: cs ++ g.letters }
      | _ => { g with words := a :: g.words }

def advice (program : String) : String :=
  "\nTry '" ++ program ++ " --help' for more information."

def withOptions (program known : String) (p : Process) (arguments : List String)
    (run : Given → Ended) : Ended :=
  let g := given program arguments
  match g.letters.find? fun c => !known.toList.contains c with
  | none => run g
  | some c => p.fail (program ++ ": invalid option -- '" ++ c.toString ++ "'" ++ advice program)

def quoted (name : String) : String :=
  if name.toList.contains '\'' then "\"" ++ name ++ "\"" else "'" ++ name ++ "'"

/-- Whether a name would mean something else to a shell, or end where it should not. -/
def needsQuotes (name : String) : Bool :=
  name.isEmpty || name.toList.any (" \t\n!\"$&'()*;<=>?[^\x60|\\:".toList.contains ·)
    || name.toList.head?.any ("#~".toList.contains ·) || name = "\x7b" || name = "\x7d"

def shown (name : String) : String := if needsQuotes name then quoted name else name

def forAll (f : Process → String → Ended) (p : Process) (words : List String) : Ended :=
  words.foldl (fun (p, status) word =>
    let (p, one) := f p word
    (p, max status one)) (p, 0)

def lastName (path : String) : String :=
  ((Path.names path).getLast?).getD (if Path.startsAtRoot path then "/" else "")

def directoryName (path : String) : String :=
  let cs := (path.toList.reverse.dropWhile (· = '/')).dropWhile (· ≠ '/')
  match cs.dropWhile (· = '/') with
  | [] => if Path.startsAtRoot path then "/" else "."
  | cs => String.ofList cs.reverse

def source (p : Process) (word : String) : Except FileError (List UInt8) :=
  if word = "-" then .ok p.input else p.disk.readBytes word

def printsTo (p : Process) (path : String) : Bool :=
  match p.outputs.lookup 1, p.disk.locate path with
  | some (.file target), .ok spot => decide (spot.path = target)
  | _, _ => false

def cat (p : Process) (g : Given) : Ended :=
  if (p.outputs.lookup 1).isNone then
    p.fail (g.program ++ ": standard output: Bad file descriptor")
  else forAll (fun p word =>
    match source p word with
    | .ok bytes =>
      let p := if word = "-" then { p with input := [] } else p
      if !bytes.isEmpty && word ≠ "-" && printsTo p word then
        p.fail (g.program ++ ": " ++ shown word ++ ": input file is output file")
      else p.finish bytes 0
    | .error e => p.fail (g.program ++ ": " ++ shown word ++ ": " ++ e.reason)) p
    (if g.words.isEmpty then ["-"] else g.words)

mutual

def copyOf (now : Int) : Node → Node
  | .file bytes _ runnable => .file bytes now runnable
  | .directory _ entries => .directory now (copiesOf now entries)
  | n => n

def copiesOf (now : Int) : List (String × Node) → List (String × Node)
  | [] => []
  | (name, n) :: rest => (name, copyOf now n) :: copiesOf now rest

end

/-- Where a word goes: into a target that is a directory, and else to the target itself. -/
def goal (p : Process) (word target : String) : String :=
  if p.disk.directoryAt target then Path.join target (lastName word) else target

def withoutSlashes (path : String) : String :=
  if Path.names path = [] then path
  else String.ofList (path.toList.reverse.dropWhile (· = '/')).reverse

/-- Find what a word names, and go on if it may take the place of what is at a target. The
text is said if a directory would go into itself. -/
def between (g : Given) (p : Process) (word target intoItself : String)
    (go : Node → (taken : Bool) → Ended) : Ended :=
  let fail (text : String) : Ended := p.fail (g.program ++ ": " ++ text)
  let cannotStat (path : String) (e : FileError) : Ended :=
    fail ("cannot stat " ++ quoted path ++ ": " ++ e.reason)
  match p.disk.find word, p.disk.locate word with
  | .error e, _ => cannotStat word e
  | _, .error e => cannotStat word e
  | .ok n, .ok source =>
    match p.disk.locate target with
    | .error .notFound => go n false
    | .error e => cannotStat target e
    | .ok there =>
      if source.path = there.path then
        fail (quoted word ++ " and " ++ quoted target ++ " are the same file")
      else
        match there.node? with
        | some (.directory ..) =>
          if n.isDirectory then go n true
          else fail ("cannot overwrite directory " ++ quoted target ++ " with non-directory")
        | some _ =>
          if n.isDirectory then
            fail ("cannot overwrite non-directory " ++ quoted target ++ " with directory "
              ++ quoted word)
          else go n true
        | none =>
          if n.isDirectory && source.names.isPrefixOf there.names then fail intoItself
          else go n false

/-- Copy one file or directory to a place. A copy may keep the time of what it is a copy of. -/
def copyOne (g : Given) (p : Process) (word target : String) : Ended :=
  if p.disk.directoryAt word && !(g.letters.any "rRa".toList.contains) then
    p.fail (g.program ++ ": -r not specified; omitting directory " ++ quoted word)
  else
    let target := goal p word target
    between g p word target
      ("cannot copy a directory, " ++ quoted word ++ ", into itself, " ++ quoted target)
      fun n taken =>
        if g.letters.contains 'n' && taken then p.succeed
        else
          let keepsTime := g.letters.any "pa".toList.contains
          let copied : Except FileError Disk := match n with
            | .file bytes time runnable => do
              let d ← p.disk.writeBytes target bytes runnable
              match keepsTime, d.find target with
              | true, .ok (.file bytes _ runnable) => d.place target (.file bytes time runnable)
              | _, _ => return d
            | .sink => p.disk.writeBytes target [] false
            | n =>
              p.disk.place (withoutSlashes target) (if keepsTime then n else copyOf p.disk.now n)
          match copied with
          | .ok d => { p with disk := d }.succeed
          | .error e =>
            let kind := if n.isDirectory then "directory " else "regular file "
            let e := if e = .isADirectory then .notADirectory else e
            p.fail (g.program ++ ": cannot create " ++ kind ++ quoted target ++ ": " ++ e.reason)

def moveOne (g : Given) (p : Process) (word target : String) : Ended :=
  let target := goal p word target
  let cannot (e : FileError) : Ended :=
    p.fail (g.program ++ ": cannot move " ++ quoted word ++ " to " ++ quoted target ++ ": "
      ++ e.reason)
  between g p word target
    ("cannot move " ++ quoted word ++ " to a subdirectory of itself, " ++ quoted target)
    fun n _ =>
      if !n.isDirectory && Path.endsInSlash target then cannot .notADirectory
      else
        match p.disk.place (withoutSlashes target) n with
        | .error e => cannot e
        | .ok d => { p with disk := d.remove word }.succeed

def transfer (one : Given → Process → String → String → Ended) (p : Process) (g : Given) :
    Ended :=
  match g.words.reverse with
  | [] => p.fail (g.program ++ ": missing file operand" ++ advice g.program)
  | [word] => p.fail (g.program ++ ": missing destination file operand after " ++ quoted word
      ++ advice g.program)
  | [target, word] => one g p word target
  | target :: words =>
    match p.disk.find target with
    | .error e => p.fail (g.program ++ ": target " ++ quoted target ++ ": " ++ e.reason)
    | .ok n =>
      if n.isDirectory then forAll (fun p word => one g p word target) p words.reverse
      else p.fail (g.program ++ ": target " ++ quoted target ++ ": Not a directory")

def removeOne (g : Given) (p : Process) (word : String) : Ended :=
  match p.disk.find word with
  | .error e =>
    if g.letters.contains 'f' && (e = .notFound || e = .notADirectory) then p.succeed
    else p.fail (g.program ++ ": cannot remove " ++ quoted word ++ ": " ++ e.reason)
  | .ok n =>
    if n.isDirectory && !(g.letters.any "rR".toList.contains) then
      p.fail (g.program ++ ": cannot remove " ++ quoted word ++ ": Is a directory")
    else { p with disk := p.disk.remove word }.succeed

def removeEmpty (g : Given) (p : Process) (word : String) : Ended :=
  let cannot (e : FileError) : Ended :=
    p.fail (g.program ++ ": failed to remove " ++ quoted word ++ ": " ++ e.reason)
  match p.disk.find word with
  | .error e => cannot e
  | .ok (.directory _ []) => { p with disk := p.disk.remove word }.succeed
  | .ok (.directory ..) => cannot (.other "Directory not empty")
  | .ok _ => cannot .notADirectory

def makeOne (g : Given) (p : Process) (word : String) : Ended :=
  let (result, d) :=
    if g.letters.contains 'p' then p.disk.makeDirectories word
    else
      match (do
          Disk.checkPath word
          p.disk.makeDirectory (← p.disk.origin word) (Path.names word).reverse) with
      | .ok d => (.ok (), d)
      | .error e => (.error e, p.disk)
  match result with
  | .ok () => { p with disk := d }.succeed
  | .error e =>
    { p with disk := d }.fail
      (g.program ++ ": cannot create directory " ++ quoted word ++ ": " ++ e.reason)

def touchOne (g : Given) (p : Process) (word : String) : Ended :=
  let changed : Except FileError Disk :=
    match p.disk.find word with
    | .ok (.file bytes _ runnable) => p.disk.place word (.file bytes p.disk.now runnable)
    | .ok (.directory _ entries) => p.disk.place word (.directory p.disk.now entries)
    | .ok _ => .ok p.disk
    | .error e =>
      if g.letters.contains 'c' then .ok p.disk
      else if e = .notFound then p.disk.writeBytes word [] false
      else .error e
  match changed with
  | .ok d => { p with disk := d }.succeed
  | .error e => p.fail (g.program ++ ": cannot touch " ++ quoted word ++ ": " ++ e.reason)

def isNewline (b : UInt8) : Bool := b = 0x0A

def linesOf : List UInt8 → List (List UInt8)
  | [] => []
  | b :: bs =>
    match linesOf bs with
    | [] => [[b]]
    | l :: ls => if isNewline b then [b] :: l :: ls else (b :: l) :: ls

def lineCount (arguments : List String) : Nat × List String :=
  match arguments with
  | "-n" :: n :: words => (n.toNat?.getD 10, words)
  | a :: words =>
    match a.toList with
    | '-' :: 'n' :: digits => ((String.ofList digits).toNat?.getD 10, words)
    | '-' :: digits => ((String.ofList digits).toNat?.getD 10, words)
    | _ => (10, a :: words)
  | [] => (10, [])

def someLines (choose : Nat → List (List UInt8) → List (List UInt8)) (program : String)
    (p : Process) (arguments : List String) : Ended :=
  let (n, words) := lineCount arguments
  forAll (fun p word =>
    match source p word with
    | .ok bytes => p.finish (choose n (linesOf bytes)).flatten 0
    | .error e =>
      p.fail (program ++ ": cannot open " ++ quoted word ++ " for reading: " ++ e.reason))
    p (if words.isEmpty then ["-"] else words)

def tee (p : Process) (g : Given) : Ended :=
  let bytes := p.input
  let (p, status) := forAll (fun p word =>
    match p.disk.openFile word (g.letters.contains 'a') with
    | .ok (d, path) => { p with disk := Process.append d path bytes }.succeed
    | .error e => p.fail (g.program ++ ": " ++ shown word ++ ": " ++ e.reason)) p g.words
  { p with input := [] }.finish bytes status

def listed (entries : List (String × Node)) : List String :=
  ((entries.map (·.1)).filter fun name => name.toList.head? ≠ some '.').mergeSort
    fun a b => decide (a ≤ b)

def listOne (g : Given) (p : Process) (word : String) : Ended :=
  match p.disk.find word with
  | .ok (.directory _ entries) =>
    p.finish (String.join ((listed entries).map (· ++ "\n"))).toUTF8.toList 0
  | .ok _ => p.finish (word ++ "\n").toUTF8.toList 0
  | .error e => (p.complain (g.program ++ ": cannot access " ++ quoted word ++ ": " ++ e.reason), 2)

def withoutEnding (name ending : String) : String :=
  if name ≠ ending && name.endsWith ending then
    String.ofList (name.toList.take (name.length - ending.length))
  else name

/-- What the test of one or two words comes to; more words are the work of the shell. -/
def testWords : List String → Nat
  | [word] => if word.isEmpty then 1 else 0
  | _ => 1

def perform (u : FileTool) (program : String) (p : Process) (arguments : List String) : Ended :=
  let options (known : String) (run : Given → Ended) : Ended :=
    withOptions program known p arguments run
  match u with
  | .true => (p, 0)
  | .false => (p, 1)
  | .sleep => options "" fun _ => (p, 0)
  | .echo => p.finish (Shell.Format.plainEcho arguments) 0
  | .printf =>
    match arguments with
    | [] => p.fail (program ++ ": missing operand" ++ advice program)
    | format :: arguments => p.finish (Shell.Format.printf format arguments) 0
  | .test => (p, testWords arguments)
  | .pwd => p.finish (String.join (p.disk.home.map ("/" ++ ·)) ++ "\n").toUTF8.toList 0
  | .cat => options "AbeEnstTuv" (cat p)
  | .cp => options "abdfiHlLnprRsuvx" (transfer copyOne p)
  | .mv => options "bfinuv" (transfer moveOne p)
  | .rm => options "dfirRv" fun g =>
      if g.words.isEmpty && !g.letters.contains 'f' then
        p.fail (program ++ ": missing operand" ++ advice program)
      else forAll (removeOne g) p g.words
  | .mkdir => options "pv" fun g =>
      if g.words.isEmpty then p.fail (program ++ ": missing operand" ++ advice program)
      else forAll (makeOne g) p g.words
  | .rmdir => options "pv" fun g =>
      if g.words.isEmpty then p.fail (program ++ ": missing operand" ++ advice program)
      else forAll (removeEmpty g) p g.words
  | .touch => options "acm" fun g =>
      if g.words.isEmpty then p.fail (program ++ ": missing file operand" ++ advice program)
      else forAll (touchOne g) p g.words
  | .basename =>
    match arguments with
    | [] => p.fail (program ++ ": missing operand" ++ advice program)
    | [path] => p.finish (lastName path ++ "\n").toUTF8.toList 0
    | [path, ending] => p.finish (withoutEnding (lastName path) ending ++ "\n").toUTF8.toList 0
    | _ :: _ :: extra :: _ =>
      p.fail (program ++ ": extra operand " ++ quoted extra ++ advice program)
  | .dirname =>
    match arguments with
    | [] => p.fail (program ++ ": missing operand" ++ advice program)
    | paths => p.finish (String.join (paths.map (directoryName · ++ "\n"))).toUTF8.toList 0
  | .head => someLines List.take program p arguments
  | .tail => someLines (fun n ls => ls.drop (ls.length - n)) program p arguments
  | .tee => options "aip" (tee p)
  | .ls => options "1aA" fun g =>
      forAll (listOne g) p (if g.words.isEmpty then ["."] else g.words)

end TuneBank.FileTools
