/-! Commands of a shell script. A word is a list of parts, each of which knows whether it stood in
quotes: only the others are split into fields and taken as patterns. -/

namespace TuneBank.Shell

inductive Fallback where
  | use
  | assign
  | refuse
  | replace
  deriving DecidableEq

inductive Opening where
  | read
  | write
  | append
  deriving DecidableEq

mutual

inductive Part where
  | text (quoted : Bool) (chars : List Char)
  | parameter (quoted : Bool) (name : String) (use : Use)
  | printed (quoted : Bool) (commands : List Command)
  | sum (quoted : Bool) (expression : List Part)

inductive Use where
  | value
  | length
  | fallback (kind : Fallback) (orEmpty : Bool) (word : List Part)
  | trimmed (atEnd longest : Bool) (pattern : List Part)

inductive Redirection where
  | file (descriptor : Nat) (opening : Opening) (path : List Part)
  | copy (descriptor : Nat) (source : List Part)
  | here (text : List Part)

inductive Command where
  | simple (line : Nat) (assignments : List (String × List Part)) (words : List (List Part))
    (redirections : List Redirection)
  | redirected (line : Nat) (body : Command) (redirections : List Redirection)
  | sequence (commands : List Command)
  | both (first second : Command)
  | either (first second : Command)
  | negated (body : Command)
  | pipeline (commands : List Command)
  | subshell (body : Command)
  | background (body : Command)
  | conditional (test yes no : Command)
  | loop (untilTrue : Bool) (test body : Command)
  | each (line : Nat) (name : String) (words? : Option (List (List Part))) (body : Command)
  | choice (line : Nat) (word : List Part) (branches : List (List (List Part) × Command))
  | define (name : String) (body : Command)

end

end TuneBank.Shell
