import TuneBank.Settings
import TuneBank.Text.Numeral

/-! The arguments of the program. An argument that starts with dashes is an option: a name after
two dashes, letters after one. The first problem from the left decides. -/

namespace TuneBank.CommandLine

inductive Stop where
  | help
  | version
  | misuse
  deriving DecidableEq

inductive Argument where
  | long (name : String) (value? : Option String)
  | short (letters : List Char)
  | optionsEnd
  | word

/-- What an argument looks like. A lone dash is a word. -/
def Argument.of (s : String) : Argument :=
  match s.toList with
  | ['-', '-'] => .optionsEnd
  | '-' :: '-' :: cs =>
    let (name, value) := cs.span (· ≠ '=')
    .long (String.ofList name) (if value.isEmpty then none else some (String.ofList value.tail))
  | '-' :: c :: cs => .short (c :: cs)
  | _ => .word

structure Grammar where
  flags : List String
  letters : List (Char × String)
  valued : List (String × (String → Bool))
  places : Nat

structure Given where
  flags : List String
  values : List (String × String)
  words : List String

def Given.nothing : Given := ⟨[], [], []⟩

namespace Grammar

/-- Take an option without a value, at most once. Two such options end the reading. -/
def addFlag (g : Grammar) (given : Given) (name : String) : Except Stop Given :=
  if !g.flags.contains name || given.flags.contains name then .error .misuse
  else if name = "help" then .error .help
  else if name = "version" then .error .version
  else .ok { given with flags := given.flags ++ [name] }

def addLetter (g : Grammar) (given : Given) (c : Char) : Except Stop Given :=
  match g.letters.lookup c with
  | some name => g.addFlag given name
  | none => .error .misuse

def addValue (g : Grammar) (given : Given) (name value : String) : Except Stop Given :=
  match g.valued.lookup name with
  | none => .error .misuse
  | some takes =>
    if takes value && (given.values.lookup name).isNone then
      .ok { given with values := given.values ++ [(name, value)] }
    else .error .misuse

def addWord (g : Grammar) (given : Given) (word : String) : Except Stop Given :=
  if given.words.length < g.places ∧ !word.isEmpty then
    .ok { given with words := given.words ++ [word] }
  else .error .misuse

def read (g : Grammar) (given : Given) : List String → Except Stop Given
  | [] => .ok given
  | arg :: rest =>
    match Argument.of arg with
    | .optionsEnd => rest.foldlM g.addWord given
    | .word => do read g (← g.addWord given arg) rest
    | .short cs => do read g (← cs.foldlM g.addLetter given) rest
    | .long name (some value) => do read g (← g.addValue given name value) rest
    | .long name none =>
      if (g.valued.lookup name).isNone then do read g (← g.addFlag given name) rest
      else
        match rest with
        | [] => .error .misuse
        | value :: rest =>
          match Argument.of value with
          | .word => do read g (← g.addValue given name value) rest
          | _ => .error .misuse

/-- Read the options before the first word; the word and what follows it are left. -/
def readLeading (g : Grammar) (given : Given) : List String → Except Stop (String × List String)
  | [] => .error .misuse
  | arg :: rest =>
    match Argument.of arg with
    | .word => .ok (arg, rest)
    | .short cs => do readLeading g (← cs.foldlM g.addLetter given) rest
    | .long name none => do readLeading g (← g.addFlag given name) rest
    | _ => .error .misuse

end Grammar

structure PackOptions where
  settings : String
  inputDir? : Option String
  outputDir? : Option String
  exporter? : Option String
  skipExport : Bool
  strict : Bool
  deriving DecidableEq

structure InspectOptions where
  file : String
  track : Nat
  asSfx : Bool
  deriving DecidableEq

inductive Command where
  | pack (options : PackOptions)
  | inspect (options : InspectOptions)
  deriving DecidableEq

def PackOptions.override (o : PackOptions) (s : Settings) : Settings :=
  { s with
    inputDir := o.inputDir?.getD s.inputDir
    outputDir := o.outputDir?.getD s.outputDir
    exporter := o.exporter?.getD s.exporter
    skipExport := s.skipExport || o.skipExport }

def isPath (value : String) : Bool := !value.isEmpty

def trackNumber? (value : String) : Option Nat := Text.natural? .decimal UInt64.size value

/-- More messages can be asked for anywhere; there are none that belong to a result. -/
def programGrammar : Grammar where
  flags := ["verbose", "help", "version"]
  letters := [('v', "verbose"), ('h', "help"), ('V', "version")]
  valued := []
  places := 0

def packGrammar : Grammar where
  flags := ["verbose", "help", "skip-export", "strict"]
  letters := [('v', "verbose"), ('h', "help")]
  valued := [("input", isPath), ("output", isPath), ("famitracker", isPath)]
  places := 1

def inspectGrammar : Grammar where
  flags := ["verbose", "help", "sfx"]
  letters := [('v', "verbose"), ('h', "help")]
  valued := [("track", fun value => (trackNumber? value).isSome)]
  places := 1

def Given.packOptions (given : Given) : PackOptions where
  settings := given.words.head?.getD Settings.fileName
  inputDir? := given.values.lookup "input"
  outputDir? := given.values.lookup "output"
  exporter? := given.values.lookup "famitracker"
  skipExport := given.flags.contains "skip-export"
  strict := given.flags.contains "strict"

/-- A file has to be named; the first track is shown unless another is asked for. -/
def Given.inspectOptions (given : Given) : Except Stop InspectOptions :=
  match given.words.head? with
  | none => .error .misuse
  | some file => .ok {
      file := file
      track := ((given.values.lookup "track").bind trackNumber?).getD 1
      asSfx := given.flags.contains "sfx" }

def topics : List (List String) := [[], ["pack"], ["inspect"], ["help"]]

def Command.read (arguments : List String) : Except Stop Command := do
  let (name, rest) ← programGrammar.readLeading .nothing arguments
  if name = "pack" then return .pack (← packGrammar.read .nothing rest).packOptions
  else if name = "inspect" then
    return .inspect (← (← inspectGrammar.read .nothing rest).inspectOptions)
  else if name = "help" ∧ topics.contains rest then throw .help
  else throw .misuse

end TuneBank.CommandLine
