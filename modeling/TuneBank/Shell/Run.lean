import TuneBank.Files.FileTools
import TuneBank.Shell.Fields
import TuneBank.Shell.Reader
import TuneBank.Shell.Sum
import TuneBank.Shell.Test
import TuneBank.Text.Utf8

/-! Running the scripts of exporters on the computer of `Files.Program`. A script changes the
process that it runs in, one command after another; a command that is neither known here nor
defined by the script is a program to start. -/

namespace TuneBank

abbrev Starter := Process → String → List String → Except FileError Process.Ended

namespace Shell

structure State where
  process : Process
  name : String
  arguments : List String
  values : List (String × String)
  exported : List String
  locals? : Option (List String)
  functions : List (String × Command)
  status : Nat
  line : Nat
  loops : Nat
  atExit? : Option String
  plain : Bool
  stopsOnFailure : Bool
  refusesUnset : Bool
  shows : Bool
  onlyReads : Bool

def State.inside (s : State) (f : Process → Process) : State := { s with process := f s.process }

inductive Escape where
  | exit
  | leave (loops : Nat)
  | again (loops : Nat)
  | back
  deriving DecidableEq

abbrev Eval := ExceptT Escape (StateM State)

namespace Eval

def attempt {α : Type} (action : Eval α) : Eval (Except Escape α) :=
  ExceptT.mk do return .ok (← action.run)

def resume {α : Type} : Except Escape α → Eval α
  | .ok a => return a
  | .error e => throw e

def setStatus (n : Nat) : Eval Unit := modify fun s => { s with status := n }

def complain (text : String) : Eval Unit :=
  modify fun s => s.inside fun p =>
    p.complain (s.name ++ ": " ++ Text.decimal s.line ++ ": " ++ text)

def fail (text : String) (status : Nat) : Eval Unit := do
  complain text
  setStatus status

def abort {α : Type} (text : String) : Eval α := do
  fail text 2
  throw .exit

/-- Run something in a copy of the shell, of which only the files and what was printed are kept,
and how it ended. -/
def apart (action : Eval Unit) : Eval Unit := do
  let before ← get
  set { before with atExit? := none }
  let _ ← attempt action
  let after ← get
  set { before with
    process := { after.process with
      disk := { after.process.disk with home := before.process.disk.home }
      outputs := before.process.outputs }
    status := after.status }

def printedBy (action : Eval Unit) : Eval (List UInt8) := do
  let before := (← get).process
  modify fun s => s.inside fun p =>
    { p with outputs := (1, .pipe) :: p.outputs.filter (·.1 ≠ 1), pipe := [] }
  action
  let bytes := (← get).process.pipe
  modify fun s => s.inside fun p => { p with outputs := before.outputs, pipe := before.pipe }
  return bytes

def print (command : String) (bytes : List UInt8) : Eval Unit := do
  match (← get).process.write? 1 bytes with
  | some p =>
    modify fun s => { s with process := p, status := 0 }
  | none => fail (command ++ ": " ++ command ++ ": I/O error") 1

end Eval

open Eval

namespace State

def separators (s : State) : List Char :=
  match s.values.lookup "IFS" with
  | some text => text.toList
  | none => [' ', '\t', '\n']

def setVariable (s : State) (name value : String) : State :=
  { s with values := (name, value) :: s.values.filter (·.1 ≠ name) }

def parameter? (s : State) (name : String) : Option String :=
  match name.toList with
  | ['#'] => some (Text.decimal s.arguments.length)
  | ['?'] => some (Text.decimal s.status)
  | ['0'] => some s.name
  | ['@'] => if s.arguments.isEmpty then none else some (" ".intercalate s.arguments)
  | ['*'] =>
    if s.arguments.isEmpty then none
    else some ((String.ofList (s.separators.take 1)).intercalate s.arguments)
  | ['-'] => some ((if s.stopsOnFailure then "e" else "") ++ (if s.refusesUnset then "u" else "")
      ++ if s.shows then "x" else "")
  | ['$'] => some "1"
  | cs =>
    if cs.all Reader.isDigit then
      match (String.ofList cs).toNat? with
      | some (n + 1) => s.arguments[n]?
      | _ => none
    else s.values.lookup name

end State

def specials : List String :=
  [":", ".", "break", "continue", "eval", "exec", "exit", "export", "readonly", "return", "set",
    "shift", "times", "trap", "unset"]

def setLetter (turnsOn : Bool) (s : State) (c : Char) : Option State :=
  match c with
  | 'e' => some { s with stopsOnFailure := turnsOn }
  | 'u' => some { s with refusesUnset := turnsOn }
  | 'x' => some { s with shows := turnsOn }
  | 'n' => some { s with onlyReads := turnsOn }
  | c => if "abCfhilmsVv".toList.contains c then some s else none

def setLetters (turnsOn : Bool) (s : State) : List Char → Except Char State
  | [] => .ok s
  | c :: cs =>
    match setLetter turnsOn s c with
    | some s => setLetters turnsOn s cs
    | none => .error c

/-- Read the options in front of arguments, and leave the others. Without any that are left, none
are given. -/
def setOptions (s : State) : List String → Except Char (State × Option (List String))
  | [] => .ok (s, none)
  | a :: arguments =>
    match a.toList with
    | ['-', '-'] => .ok (s, some arguments)
    | ['-'] => .ok (s, if arguments.isEmpty then none else some arguments)
    | '-' :: cs => do setOptions (← setLetters true s cs) arguments
    | '+' :: cs => do setOptions (← setLetters false s cs) arguments
    | _ => .ok (s, some (a :: arguments))

def count? (text : String) : Option Nat := Text.natural? .decimal 0x80000000 text

def isAssigned (text : String) : Option (String × String) :=
  match text.toList.span Reader.continuesName with
  | (name, '=' :: value) => some (String.ofList name, String.ofList value)
  | _ => none

def nameOf (text : String) : String := String.ofList (text.toList.takeWhile (· ≠ '='))

def setAll (arguments : List String) (s : State) : State :=
  arguments.foldl (fun s a =>
    match isAssigned a with
    | some (name, value) => s.setVariable name value
    | none => s) s

/-- Cut a line at separators into so many values; the last has all that is left. -/
def cutLine (separators : List Char) : Nat → List Char → List String
  | 0, _ => []
  | 1, cs =>
    let isBlank (c : Char) : Bool := separators.contains c && Reader.isSpace c
    [String.ofList (((cs.dropWhile isBlank).reverse.dropWhile isBlank).reverse)]
  | n + 1, cs =>
    let isBlank (c : Char) : Bool := separators.contains c && Reader.isSpace c
    let (word, rest) := (cs.dropWhile isBlank).span fun c => !separators.contains c
    String.ofList word :: cutLine separators n (rest.drop 1)

def readLine (names : List String) : Eval Unit := do
  let names := names.filter (· ≠ "-r")
  let s ← get
  let (line, rest) := s.process.input.span fun b => b ≠ 0x0A
  let values := cutLine s.separators names.length (Text.Utf8.repaired line).toList
  set ((names.zip values).foldl (fun s (name, value) => s.setVariable name value)
    { s with
      process := { s.process with input := rest.tail }
      status := if rest.isEmpty then 1 else 0 })

/-- A command of the shell that runs no other commands. Nothing, if it is not known. -/
def builtin? (name : String) (arguments : List String) : Option (Eval Unit) :=
  let test (words : List String) : Eval Unit := do
    match Test.holds (← get).process.disk words with
    | .ok value => setStatus (if value then 0 else 1)
    | .error refusal => fail (name ++ ": " ++ refusal.message) 2
  let loops (escape : Nat → Escape) : Eval Unit := do
    let around := (← get).loops
    let go (n : Nat) : Eval Unit :=
      if around = 0 then setStatus 0 else throw (escape (min n around))
    match arguments with
    | [] => go 1
    | n :: _ =>
      match count? n with
      | some (n + 1) => go (n + 1)
      | _ => abort (name ++ ": Illegal number: " ++ n)
  let ends (escape : Escape) : Eval Unit := do
    match arguments with
    | [] => throw escape
    | n :: _ =>
      match count? n with
      | some n =>
        setStatus (n % 256)
        throw escape
      | none => abort (name ++ ": Illegal number: " ++ n)
  match name with
  | ":" | "true" | "umask" | "wait" | "times" | "ulimit" | "alias" | "hash" =>
    some (setStatus 0)
  | "false" => some (setStatus 1)
  | "echo" => some do
    print name (if (← get).plain then Format.plainEcho arguments else Format.echo arguments)
  | "printf" => some do
    match arguments with
    | [] => fail "printf: usage: printf format [arg ...]" 2
    | "--" :: format :: arguments => print name (Format.printf format arguments)
    | format :: arguments => print name (Format.printf format arguments)
  | "test" => some (test arguments)
  | "[" => some do
    if arguments.getLast? = some "]" then test arguments.dropLast
    else fail "[: missing ]" 2
  | "exit" => some (ends .exit)
  | "return" => some (ends .back)
  | "break" => some (loops .leave)
  | "continue" => some (loops .again)
  | "shift" => some do
    match arguments with
    | [] =>
      if (← get).arguments.isEmpty then abort "shift: can't shift that many"
      else modify fun s => { s with arguments := s.arguments.tail, status := 0 }
    | n :: _ =>
      match count? n with
      | none => abort ("shift: Illegal number: " ++ n)
      | some n =>
        if (← get).arguments.length < n then abort "shift: can't shift that many"
        else modify fun s => { s with arguments := s.arguments.drop n, status := 0 }
  | "set" => some do
    match setOptions (← get) arguments with
    | .error c => abort ("set: Illegal option -" ++ c.toString)
    | .ok (s, arguments?) =>
      set { s with arguments := arguments?.getD s.arguments, status := 0 }
  | "trap" => some do
    match arguments with
    | action :: signals =>
      if signals.contains "EXIT" || signals.contains "0" then
        modify fun s => { s with atExit? := if action = "-" then none else some action }
      else if action = "EXIT" || action = "0" then modify fun s => { s with atExit? := none }
    | [] => pure ()
    setStatus 0
  | "export" | "readonly" => some do
    modify (setAll arguments)
    if name = "export" then
      modify fun s => { s with exported := arguments.map nameOf ++ s.exported }
    setStatus 0
  | "local" => some do
    match (← get).locals? with
    | none => abort "local: not in a function"
    | some names =>
      modify fun s => setAll arguments { s with locals? := some (arguments.map nameOf ++ names) }
      setStatus 0
  | "unset" => some do
    modify fun s => { s with
      values := s.values.filter fun v => !arguments.contains v.1
      functions := s.functions.filter fun f => !(arguments.contains "-f" && arguments.contains f.1)
      status := 0 }
  | "cd" => some do
    let s ← get
    let directory := (arguments.filter (· ≠ "--")).head?.getD "."
    match s.process.disk.locate directory with
    | .ok spot =>
      if (spot.node?.any Node.isDirectory) then
        modify fun s => s.inside fun p => { p with disk := { p.disk with home := spot.names } }
        setStatus 0
      else fail ("cd: can't cd to " ++ directory) 2
    | .error _ => fail ("cd: can't cd to " ++ directory) 2
  | "pwd" => some do
    let home := (← get).process.disk.home
    print name (String.join (home.map ("/" ++ ·)) ++ "\n").toUTF8.toList
  | "read" => some (readLine arguments)
  | _ => none

def startProgram (start : Starter) (name : String) (arguments : List String) : Eval Unit := do
  let s ← get
  let home := s.process.disk.home
  let p := { s.process with environment := s.values.filter fun v => s.exported.contains v.1 }
  let settle (ended : Process.Ended) : Eval Unit :=
    set { s with
      process := { ended.1 with
        disk := { ended.1.disk with home := home }
        outputs := s.process.outputs
        environment := s.process.environment }
      status := ended.2 }
  match start p name arguments with
  | .ok ended => settle ended
  | .error .notRunnable =>
    match start p "/bin/sh" (name :: arguments) with
    | .ok ended => settle ended
    | .error e => fail (name ++ ": " ++ e.reason) 126
  | .error e =>
    if e = .notFound || e = .notADirectory then fail (name ++ ": not found") 127
    else fail (name ++ ": " ++ e.reason) 126

def withoutLastLines (bytes : List UInt8) : List UInt8 :=
  (bytes.reverse.dropWhile (· = 0x0A)).reverse

def lead (descriptor : Nat) (stream? : Option Stream) : Eval Unit :=
  modify fun s => s.inside fun p =>
    let others := p.outputs.filter fun o => o.1 ≠ descriptor
    { p with outputs := match stream? with
      | some stream => (descriptor, stream) :: others
      | none => others }

def setsInput (rs : List Redirection) : Bool :=
  rs.any fun
    | .here _ => true
    | .file 0 .read _ => true
    | _ => false

/-- A process after a command with redirections. -/
def restored (before : Process) (hadInput : Bool) (p : Process) : Process :=
  { p with
    outputs := before.outputs
    input := if hadInput then before.input else p.input }

def openReason (opening : Opening) (e : FileError) : String :=
  if e = .notFound || e = .notADirectory then
    if opening = .read then "No such file" else "Directory nonexistent"
  else e.reason

mutual

/-- Expand the parts of a word, in at most `fuel` steps. -/
def expand (fuel : Nat) (start : Starter) (ps : List Part) : Eval (List Glyph) :=
  match fuel with
  | 0 => throw .exit
  | fuel + 1 =>
    match ps with
    | [] => return []
    | p :: ps => do
      let first ← expandPart fuel start p
      return first ++ (← expand fuel start ps)

def expandPart (fuel : Nat) (start : Starter) (p : Part) : Eval (List Glyph) :=
  match fuel with
  | 0 => throw .exit
  | fuel + 1 =>
    match p with
    | .text quoted cs =>
      return (if quoted then [.mark] else []) ++ cs.map fun c => .letter ⟨c, quoted⟩ false
    | .printed quoted commands => do
      let bytes ← printedBy (apart (run fuel start false (.sequence commands)))
      let text := Text.Utf8.repaired (withoutLastLines (bytes.filter (· ≠ 0)))
      return Fields.value quoted text
    | .sum quoted expression => do
      let text := Fields.text (Fields.letters (← expand fuel start expression))
      let s ← get
      match Sum.run (fun name => (s.parameter? name).getD "") text.toList with
      | .ok (n, assigned) =>
        set (assigned.foldr (fun (name, n) s => s.setVariable name (Sum.shown n)) s)
        return Fields.value quoted (Sum.shown n)
      | .error flaw => abort (flaw.message text)
    | .parameter quoted name use => do
      let s ← get
      let value? := s.parameter? name
      let whole : List Glyph :=
        if name = "@" || name = "*" then
          Fields.arguments quoted (name = "@") s.separators s.arguments
        else Fields.value quoted (value?.getD "")
      let isRefused := s.refusesUnset && value?.isNone && name ≠ "@" && name ≠ "*"
        && match use with
          | .fallback .. => false
          | _ => true
      if isRefused then abort (name ++ ": parameter not set")
      match use with
      | .value => return whole
      | .length => return Fields.value quoted (Text.decimal (value?.getD "").utf8ByteSize)
      | .trimmed atEnd longest pattern => do
        let p := Pattern.ofLetters (Fields.letters (← expand fuel start pattern))
        let cs := (value?.getD "").toList
        return Fields.value quoted (String.ofList
          (if atEnd then p.trimEnd longest cs else p.trimStart longest cs))
      | .fallback kind orEmpty word => do
        let isSet := match value? with
          | some value => !(orEmpty && value.isEmpty)
          | none => false
        match kind with
        | .use =>
          if isSet then return whole else return Fields.cuttable (← expand fuel start word)
        | .replace =>
          if isSet then return Fields.cuttable (← expand fuel start word) else return []
        | .assign =>
          if isSet then return whole
          else
            let value := Fields.text (Fields.letters (← expand fuel start word))
            modify fun s => s.setVariable name value
            return Fields.value quoted value
        | .refuse =>
          if isSet then return whole
          else
            let message := Fields.text (Fields.letters (← expand fuel start word))
            abort (name ++ ": " ++ if message.isEmpty then
              (if orEmpty then "parameter not set or null" else "parameter not set") else message)

def oneText (fuel : Nat) (start : Starter) (word : List Part) : Eval String :=
  match fuel with
  | 0 => throw .exit
  | fuel + 1 => do return Fields.text (Fields.letters (← expand fuel start word))

def allFields (fuel : Nat) (start : Starter) (words : List (List Part)) : Eval (List String) :=
  match fuel with
  | 0 => throw .exit
  | fuel + 1 =>
    match words with
    | [] => return []
    | word :: words => do
      let glyphs ← expand fuel start word
      let s ← get
      let fields := Fields.cut s.separators glyphs
      return fields.flatMap (Fields.expanded s.process.disk) ++ (← allFields fuel start words)

def redirect (fuel : Nat) (start : Starter) (rs : List Redirection) : Eval Bool :=
  match fuel with
  | 0 => throw .exit
  | fuel + 1 =>
    match rs with
    | [] => return true
    | .here text :: rs => do
      let bytes := (← oneText fuel start text).toUTF8.toList
      modify fun s => s.inside fun p => { p with input := bytes }
      redirect fuel start rs
    | .copy descriptor source :: rs => do
      let source ← oneText fuel start source
      if source = "-" then
        lead descriptor none
        redirect fuel start rs
      else
        match (count? source).bind ((← get).process.outputs.lookup ·), source with
        | some stream, _ =>
          lead descriptor (some stream)
          redirect fuel start rs
        | none, "0" => redirect fuel start rs
        | none, source =>
          if (count? source).isNone then abort "Syntax error: Bad fd number"
          else
            lead descriptor none
            fail (source ++ ": Bad file descriptor") 2
            return false
    | .file descriptor opening path :: rs => do
      let path ← oneText fuel start path
      let s ← get
      if opening = .read then
        match s.process.disk.readBytes path with
        | .ok bytes =>
          if descriptor = 0 then
            set { s with process := { s.process with input := bytes } }
          redirect fuel start rs
        | .error .isADirectory => redirect fuel start rs
        | .error .notText => redirect fuel start rs
        | .error e =>
          fail ("cannot open " ++ path ++ ": " ++ openReason opening e) 2
          return false
      else
        match s.process.disk.openFile path (opening = .append) with
        | .ok (disk, place) =>
          set { s with process := { s.process with disk := disk } }
          lead descriptor (some (.file place))
          redirect fuel start rs
        | .error e =>
          fail ("cannot create " ++ path ++ ": " ++ openReason opening e) 2
          return false

def assign (fuel : Nat) (start : Starter) (assignments : List (String × List Part)) :
    Eval (List (String × String)) :=
  match fuel with
  | 0 => throw .exit
  | fuel + 1 =>
    match assignments with
    | [] => return []
    | (name, word) :: rest => do
      let value ← oneText fuel start word
      modify fun s => s.setVariable name value
      return (name, value) :: (← assign fuel start rest)

def dispatch (fuel : Nat) (start : Starter) (tested : Bool) (name : String)
    (arguments : List String) : Eval Unit :=
  match fuel with
  | 0 => throw .exit
  | fuel + 1 => do
    let s ← get
    match (if specials.contains name then none else s.functions.lookup name) with
    | some body =>
      set { s with arguments := arguments, loops := 0, locals? := some [] }
      let result ← attempt (run fuel start tested body)
      modify fun after =>
        let names := after.locals?.getD []
        { after with
          arguments := s.arguments
          loops := s.loops
          locals? := s.locals?
          values := s.values.filter (fun v => names.contains v.1)
            ++ after.values.filter fun v => !names.contains v.1 }
      match result with
      | .error .back => return
      | result => resume result
    | none =>
      match name with
      | "eval" =>
        setStatus 0
        script fuel start tested (" ".intercalate arguments).toList
      | "." =>
        match arguments with
        | [] => abort ".: filename argument required"
        | path :: _ =>
          match s.process.disk.readBytes path with
          | .ok bytes =>
            setStatus 0
            match ← attempt (script fuel start tested (Text.Utf8.repaired bytes).toList) with
            | .error .back => return
            | result => resume result
          | .error e => abort (".: cannot open " ++ path ++ ": " ++ openReason .read e)
      | "exec" =>
        match arguments with
        | [] => setStatus 0
        | name :: arguments =>
          startProgram start name arguments
          throw .exit
      | "command" =>
        match arguments.filter (· ≠ "--") with
        | [] => setStatus 0
        | "-v" :: words =>
          match words with
          | [] => setStatus 0
          | word :: _ =>
            if (builtin? word []).isSome || specials.contains word then
              print "command" (word ++ "\n").toUTF8.toList
            else
              match s.process.disk.find ("/usr/bin/" ++ word) with
              | .ok _ => print "command" ("/usr/bin/" ++ word ++ "\n").toUTF8.toList
              | .error _ => setStatus 127
        | name :: arguments => dispatch fuel start tested name arguments
      | name =>
        match builtin? name arguments with
        | some action => action
        | none => startProgram start name arguments

/-- Run a command. The failure of one that is tested does not stop a script. -/
def run (fuel : Nat) (start : Starter) (tested : Bool) (c : Command) : Eval Unit :=
  match fuel with
  | 0 => throw .exit
  | fuel + 1 =>
    let check : Eval Unit := do
      let s ← get
      if s.stopsOnFailure && !tested && s.status ≠ 0 then throw .exit
    match c with
    | .sequence [] => return
    | .sequence (c :: cs) => do
      run fuel start tested c
      run fuel start tested (.sequence cs)
    | .both first second => do
      run fuel start true first
      if (← get).status = 0 then run fuel start tested second
    | .either first second => do
      run fuel start true first
      if (← get).status ≠ 0 then run fuel start tested second
    | .negated body => do
      run fuel start true body
      modify fun s => { s with status := if s.status = 0 then 1 else 0 }
    | .subshell body => do
      apart (run fuel start tested body)
      check
    | .background body => do
      apart (run fuel start tested body)
      setStatus 0
    | .pipeline commands => do
      let input := (← get).process.input
      pipe fuel start commands
      modify fun s => s.inside fun p => { p with input := input }
      check
    | .conditional test yes no => do
      run fuel start true test
      if (← get).status = 0 then run fuel start tested yes
      else
        setStatus 0
        run fuel start tested no
    | .loop untilTrue test body => loop fuel start tested untilTrue test body 0
    | .each line name words? body => do
      modify fun s => { s with line := line }
      let words ← match words? with
        | some words => allFields fuel start words
        | none => do pure (← get).arguments
      setStatus 0
      eachOf fuel start tested name words body
    | .choice line word branches => do
      modify fun s => { s with line := line }
      let text ← oneText fuel start word
      setStatus 0
      choose fuel start tested text.toList branches
    | .define name body =>
      modify fun s => { s with
        functions := (name, body) :: s.functions.filter (·.1 ≠ name)
        status := 0 }
    | .redirected line body rs => do
      modify fun s => { s with line := line }
      let before := (← get).process
      if ← redirect fuel start rs then
        let result ← attempt (run fuel start tested body)
        modify fun s => s.inside (restored before (setsInput rs))
        resume result
      else
        modify fun s => s.inside (restored before true)
        check
    | .simple line assignments words rs => do
      modify fun s => { s with line := line }
      if assignments.isEmpty then pure () else if words.isEmpty then setStatus 0
      let arguments ← allFields fuel start words
      let before ← get
      let isReady ← redirect fuel start rs
      let restore (s : State) : State := s.inside (restored before.process (setsInput rs))
      if !isReady then
        modify restore
        if arguments.head?.any specials.contains then throw .exit
        check
      else
        let assigned ← assign fuel start assignments
        if !arguments.isEmpty then
          modify fun s => { s with exported := assigned.map (·.1) ++ s.exported }
        if before.shows && !(assigned.isEmpty && arguments.isEmpty) then
          let sets := assigned.map fun (name, value) => name ++ "=" ++ value
          modify fun s => s.inside fun p =>
            { { p with outputs := before.process.outputs }.complain
                ("+ " ++ " ".intercalate (sets ++ arguments)) with outputs := p.outputs }
        match arguments with
        | [] =>
          if assignments.isEmpty && words.isEmpty then setStatus 0
          modify restore
          check
        | name :: arguments =>
          let result ← attempt (dispatch fuel start tested name arguments)
          if name = "exec" then pure () else modify restore
          if !assigned.isEmpty && !specials.contains name then
            let names := assigned.map (·.1)
            modify fun s => { s with
              exported := before.exported
              values := before.values.filter (fun v => names.contains v.1)
                ++ s.values.filter fun v => !names.contains v.1 }
          resume result
          check

def pipe (fuel : Nat) (start : Starter) (commands : List Command) : Eval Unit :=
  match fuel with
  | 0 => throw .exit
  | fuel + 1 =>
    match commands with
    | [] => return
    | [last] => apart (run fuel start false last)
    | c :: cs => do
      let bytes ← printedBy (apart (run fuel start false c))
      modify fun s => s.inside fun p => { p with input := bytes }
      pipe fuel start cs

def turn (fuel : Nat) (start : Starter) (tested : Bool) (body : Command) : Eval Bool :=
  match fuel with
  | 0 => throw .exit
  | fuel + 1 => do
    modify fun s => { s with loops := s.loops + 1 }
    let result ← attempt (run fuel start tested body)
    modify fun s => { s with loops := s.loops - 1 }
    match result with
    | .ok () => return true
    | .error (.leave n) =>
      setStatus 0
      if 1 < n then throw (.leave (n - 1)) else return false
    | .error (.again n) =>
      setStatus 0
      if 1 < n then throw (.again (n - 1)) else return true
    | .error e => throw e

def loop (fuel : Nat) (start : Starter) (tested untilTrue : Bool) (test body : Command)
    (status : Nat) : Eval Unit :=
  match fuel with
  | 0 => throw .exit
  | fuel + 1 => do
    run fuel start true test
    if ((← get).status = 0) = untilTrue then setStatus status
    else if ← turn fuel start tested body then
      loop fuel start tested untilTrue test body (← get).status

def eachOf (fuel : Nat) (start : Starter) (tested : Bool) (name : String) (words : List String)
    (body : Command) : Eval Unit :=
  match fuel with
  | 0 => throw .exit
  | fuel + 1 =>
    match words with
    | [] => return
    | word :: words => do
      modify fun s => s.setVariable name word
      if ← turn fuel start tested body then eachOf fuel start tested name words body

def choose (fuel : Nat) (start : Starter) (tested : Bool) (text : List Char)
    (branches : List (List (List Part) × Command)) : Eval Unit :=
  match fuel with
  | 0 => throw .exit
  | fuel + 1 =>
    match branches with
    | [] => return
    | ([], _) :: rest => choose fuel start tested text rest
    | (word :: words, body) :: rest => do
      let p := Pattern.ofLetters (Fields.letters (← expand fuel start word))
      if p.accepts text then run fuel start tested body
      else choose fuel start tested text ((words, body) :: rest)

def script (fuel : Nat) (start : Starter) (tested : Bool) (cs : List Char) : Eval Unit :=
  match fuel with
  | 0 => throw .exit
  | fuel + 1 => scriptFrom fuel start tested (cs.count '\n') cs

def scriptFrom (fuel : Nat) (start : Starter) (tested : Bool) (newlines : Nat)
    (cs : List Char) : Eval Unit :=
  match fuel with
  | 0 => throw .exit
  | fuel + 1 => do
    match Reader.next newlines cs with
    | .error flaw =>
      modify fun s => { s with line := flaw.line }
      abort flaw.text
    | .ok none => return
    | .ok (some (c, rest)) =>
      if !(← get).onlyReads then run fuel start tested c
      scriptFrom fuel start tested newlines rest

end

def maxSteps : Nat := 100000

/-- Run a script to its end, and then what it has left for that. -/
def whole (start : Starter) (text : String) : Eval Unit := do
  let _ ← attempt (script maxSteps start false text.toList)
  match (← get).atExit? with
  | none => return
  | some action =>
    let status := (← get).status
    modify fun s => { s with atExit? := none }
    match ← attempt (script maxSteps start false action.toList) with
    | .ok () => setStatus status
    | .error _ => return

/-- Start a shell under a name with its arguments: options, and then a script or the commands
themselves. -/
def main (start : Starter) (plain : Bool) (name : String) (p : Process)
    (arguments : List String) : Process.Ended :=
  let s : State :=
    { process := p, name := name, arguments := [], values := p.environment,
      exported := p.environment.map (·.1), locals? := none, functions := [], status := 0,
      line := 0, loops := 0, atExit? := none, plain := plain, stopsOnFailure := false,
      refusesUnset := false, shows := false, onlyReads := false }
  let finish (s : State) (action : Eval Unit) : Process.Ended :=
    let (_, s) := (action.run).run s
    (s.process, s.status)
  let (options, rest) := arguments.span fun a =>
    a.toList.head? = some '-' && a ≠ "--" && a ≠ "-"
  let rest := match rest with
    | "--" :: rest => rest
    | "-" :: rest => rest
    | rest => rest
  let letters := options.flatMap (·.toList.tail)
  match setLetters true s (letters.filter (· ≠ 'c')) with
  | .error c => finish s (abort ("Illegal option -" ++ c.toString))
  | .ok s =>
    if letters.contains 'c' then
      match rest with
      | [] => finish s (abort "-c requires an argument")
      | text :: rest =>
        finish { s with name := rest.head?.getD name, arguments := rest.tail } (whole start text)
    else
      match rest with
      | [] => finish { s with process := { p with input := [] } }
          (whole start (Text.Utf8.repaired p.input))
      | path :: rest =>
        match p.disk.readBytes path with
        | .ok bytes =>
          finish { s with name := path, arguments := rest }
            (whole start (Text.Utf8.repaired bytes))
        | .error e =>
          finish s (abort ("cannot open " ++ path ++ ": " ++ openReason .read e))

end Shell

end TuneBank
