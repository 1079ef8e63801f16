import TuneBank.Shell.Command
import TuneBank.Text.Numeral

/-! Reading scripts. A script is read one complete command after another, so that what comes
before a flaw is still run. -/

namespace TuneBank.Shell

structure Flaw where
  line : Nat
  text : String
  deriving DecidableEq

/-- Where a run of parts stands, which decides where it ends and what is quoted in it. -/
inductive Context where
  | word
  | double
  | here
  | brace (quoted : Bool)
  | sum (depth : Nat)
  deriving DecidableEq

def Context.isQuoted : Context → Bool
  | .double | .here | .brace true => true
  | _ => false

inductive Token where
  | word (parts : List Part) (plain? : Option String)
  | descriptor (n : Nat)
  | operator (text : String)
  | newline
  | fileEnd

namespace Reader

def isSpace (c : Char) : Bool := c = ' ' || c = '\t'

def endsWord (c : Char) : Bool := isSpace c || "\n;&|<>()".toList.contains c

def startsName (c : Char) : Bool :=
  ('a' ≤ c && c ≤ 'z') || ('A' ≤ c && c ≤ 'Z') || c = '_'

def isDigit (c : Char) : Bool := '0' ≤ c && c ≤ '9'

def continuesName (c : Char) : Bool := startsName c || isDigit c

def isSpecial (c : Char) : Bool := "@*#?$!-".toList.contains c

/-- Words that have a meaning where a command could start. -/
def reserved : List String :=
  ["!", "\x7b", "\x7d", "case", "do", "done", "elif", "else", "esac", "fi", "for", "if", "in",
    "then", "until", "while"]

def enders : List String := ["\x7d", "do", "done", "elif", "else", "esac", "fi", "then"]

def doubleQuoted (text : String) : String := "\"" ++ text ++ "\""

def Token.name (atCommand : Bool) : Token → String
  | .word _ (some plain) =>
    if atCommand && reserved.contains plain then doubleQuoted plain else "word"
  | .word _ none => "word"
  | .descriptor _ => "redirection"
  | .operator text =>
    if text.toList.any fun c => c = '<' || c = '>' then "redirection" else doubleQuoted text
  | .newline => "newline"
  | .fileEnd => "end of file"

section

variable (newlines : Nat)

def lineAt (rest : List Char) : Nat := newlines + 1 - rest.count '\n'

def flaw {α : Type} (rest : List Char) (text : String) : Except Flaw α :=
  .error ⟨lineAt newlines rest, "Syntax error: " ++ text⟩

def unexpected {α : Type} (rest : List Char) (t : Token) (atCommand : Bool) : Except Flaw α :=
  flaw newlines rest (Token.name atCommand t ++ " unexpected")

def expecting {α : Type} (rest : List Char) (t : Token) (wanted : String) : Except Flaw α :=
  flaw newlines rest (Token.name true t ++ " unexpected (expecting " ++ wanted ++ ")")

def consChar (quoted : Bool) (c : Char) : List Part → List Part
  | .text q cs :: ps =>
    if q = quoted then .text q (c :: cs) :: ps else .text quoted [c] :: .text q cs :: ps
  | ps => .text quoted [c] :: ps

def operator? (cs : List Char) : Option (String × List Char) :=
  let ops := ["<<-", "&&", "||", ";;", "<<", "<&", "<>", ">>", ">&", ">|", "<", ">", "(", ")", ";",
    "&", "|"]
  (ops.find? fun op => op.toList.isPrefixOf cs).map fun op => (op, cs.drop op.length)

def skip : Bool → List Char → List Char
  | false, '\\' :: '\n' :: r => skip false r
  | false, '#' :: r => skip true r
  | false, c :: r => if isSpace c then skip false r else c :: r
  | true, c :: r => if c = '\n' then c :: r else skip true r
  | _, [] => []

def single (cs : List Char) : Except Flaw (List Char × List Char) :=
  match cs.span (· ≠ '\'') with
  | (text, _ :: rest) => .ok (text, rest)
  | (_, []) => flaw newlines [] "Unterminated quoted string"

/-- Text up to a back quote, in which a backslash only keeps a few characters from having a
meaning. -/
def backQuoted (quoted : Bool) : List Char → Except Flaw (List Char × List Char)
  | [] => flaw newlines [] "EOF in backquote substitution"
  | '\x60' :: rest => .ok ([], rest)
  | '\\' :: c :: rest => do
    let (text, after) ← backQuoted quoted rest
    if c = '$' || c = '\x60' || c = '\\' || (quoted && c = '"') then return (c :: text, after)
    return ('\\' :: c :: text, after)
  | c :: rest => do
    let (text, after) ← backQuoted quoted rest
    return (c :: text, after)

def name? : List Char → Option (String × List Char)
  | [] => none
  | c :: r =>
    if startsName c then
      let (name, rest) := r.span continuesName
      some (String.ofList (c :: name), rest)
    else if isDigit c || isSpecial c then some (c.toString, r)
    else none

/-- The name of a parameter between braces, where a number may have several digits. -/
def bracedName? : List Char → Option (String × List Char)
  | [] => none
  | c :: r =>
    if isDigit c then
      let (digits, rest) := r.span isDigit
      some (String.ofList (c :: digits), rest)
    else name? (c :: r)

inductive BraceOperator where
  | fallback (kind : Fallback) (orEmpty : Bool)
  | trimmed (atEnd longest : Bool)

def fallback? : Char → Option Fallback
  | '-' => some .use
  | '=' => some .assign
  | '?' => some .refuse
  | '+' => some .replace
  | _ => none

def braceOperator? : List Char → Option (BraceOperator × List Char)
  | ':' :: c :: r => (fallback? c).map (.fallback · true, r)
  | '%' :: '%' :: r => some (.trimmed true true, r)
  | '%' :: r => some (.trimmed true false, r)
  | '#' :: '#' :: r => some (.trimmed false true, r)
  | '#' :: r => some (.trimmed false false, r)
  | c :: r => (fallback? c).map (.fallback · false, r)
  | [] => none

def hereLines (mark : List Char) (dropsTabs : Bool) : Nat → List Char → List Char × List Char
  | 0, cs => ([], cs)
  | _, [] => ([], [])
  | n + 1, cs =>
    let (line, rest) := cs.span (· ≠ '\n')
    let line := if dropsTabs then line.dropWhile (· = '\t') else line
    if line = mark then ([], rest.tail)
    else
      let (body, after) := hereLines mark dropsTabs n rest.tail
      (line ++ (rest.take 1) ++ body, after)

def unquoted : List Part → List Char × Bool
  | [] => ([], false)
  | .text quoted cs :: ps =>
    let (rest, any) := unquoted ps
    (cs ++ rest, quoted || any)
  | _ :: ps => unquoted ps

def assignment? : List Part → Option (String × List Part)
  | .text false cs :: ps =>
    match cs.span continuesName with
    | (c :: name, '=' :: value) =>
      if startsName c then
        some (String.ofList (c :: name), if value.isEmpty then ps else .text false value :: ps)
      else none
    | _ => none
  | _ => none

def redirects (op : String) : Bool :=
  ["<<-", "<<", "<&", "<>", ">>", ">&", ">|", "<", ">"].contains op

def skipNewlines : Nat → List Char → List Char
  | 0, cs => cs
  | n + 1, cs =>
    match skip false cs with
    | '\n' :: r => skipNewlines n r
    | r => r

mutual

def parts (fuel : Nat) (context : Context) (cs : List Char) :
    Except Flaw (List Part × List Char) :=
  match fuel with
  | 0 => flaw newlines cs "too deep"
  | fuel + 1 =>
    let quoted := context.isQuoted
    let take (q : Bool) (c : Char) (context : Context) (r : List Char) :
        Except Flaw (List Part × List Char) := do
      let (ps, rest) ← parts fuel context r
      return (consChar q c ps, rest)
    match cs with
    | [] =>
      match context with
      | .word | .here => .ok ([], [])
      | .double => flaw newlines [] "Unterminated quoted string"
      | .brace _ => flaw newlines [] "Missing '\x7d'"
      | .sum _ => flaw newlines [] "Missing '))'"
    | '\\' :: '\n' :: r => parts fuel context r
    | '\\' :: c :: r =>
      let keeps := match context with
        | .word | .brace false => false
        | .double => !("$\x60\"\\".toList.contains c)
        | .here | .sum _ => !("$\x60\\".toList.contains c)
        | .brace true => !("$\x60\"\\\x7d".toList.contains c)
      if keeps then do
        let (ps, rest) ← parts fuel context r
        return (consChar true '\\' (consChar true c ps), rest)
      else take true c context r
    | '\'' :: r =>
      match context with
      | .word | .brace false => do
        let (text, r) ← single newlines r
        let (ps, rest) ← parts fuel context r
        return (.text true text :: ps, rest)
      | _ => take quoted '\'' context r
    | '"' :: r =>
      match context with
      | .double => .ok ([], r)
      | .here | .sum _ => take true '"' context r
      | _ => do
        let (inner, r) ← parts fuel .double r
        let (ps, rest) ← parts fuel context r
        let isAll := match inner with
          | [.parameter _ "@" .value] => true
          | _ => false
        return ((if isAll then inner else .text true [] :: inner) ++ ps, rest)
    | '$' :: r => do
      match ← dollar fuel quoted r with
      | none => take quoted '$' context r
      | some (part, r) =>
        let (ps, rest) ← parts fuel context r
        return (part :: ps, rest)
    | '\x60' :: r => do
      let (text, r) ← backQuoted newlines (context = .double) r
      let (commands, _) ← list fuel false text
      let (ps, rest) ← parts fuel context r
      return (.printed quoted commands :: ps, rest)
    | c :: r =>
      match context with
      | .word => if endsWord c then .ok ([], c :: r) else take false c context r
      | .brace q => if c = '\x7d' then .ok ([], r) else take q c context r
      | .sum depth =>
        if c = '(' then take false c (.sum (depth + 1)) r
        else if c = ')' then
          match depth, r with
          | 0, ')' :: r => .ok ([], r)
          | depth, r => take false c (.sum (depth - 1)) r
        else take false c context r
      | _ => take true c context r

def dollar (fuel : Nat) (quoted : Bool) (cs : List Char) :
    Except Flaw (Option (Part × List Char)) :=
  match fuel with
  | 0 => flaw newlines cs "too deep"
  | fuel + 1 =>
    match cs with
    | '(' :: '(' :: r => do
      let (ps, rest) ← parts fuel (.sum 0) r
      return some (.sum quoted ps, rest)
    | '(' :: r => do
      let (commands, r) ← list fuel false r
      match ← token fuel r with
      | (.operator ")", rest) => return some (.printed quoted commands, rest)
      | (t, rest) => expecting newlines rest t "\")\""
    | '\x7b' :: '#' :: '\x7d' :: r => return some (.parameter quoted "#" .value, r)
    | '\x7b' :: r => do
      let length := match r with
        | '#' :: r =>
          match bracedName? r with
          | some (name, '\x7d' :: rest) => some (name, rest)
          | _ => none
        | _ => none
      match length with
      | some (name, rest) => return some (.parameter quoted name .length, rest)
      | none =>
        match bracedName? r with
        | none => .error ⟨lineAt newlines r, "Bad substitution"⟩
        | some (name, '\x7d' :: rest) => return some (.parameter quoted name .value, rest)
        | some (name, r) =>
          match braceOperator? r with
          | none => .error ⟨lineAt newlines r, "Bad substitution"⟩
          | some (.fallback kind orEmpty, r) =>
            let (word, rest) ← parts fuel (.brace quoted) r
            return some (.parameter quoted name (.fallback kind orEmpty word), rest)
          | some (.trimmed atEnd longest, r) =>
            let (pattern, rest) ← parts fuel (.brace false) r
            return some (.parameter quoted name (.trimmed atEnd longest pattern), rest)
    | cs => return (name? cs).map fun (name, rest) => (.parameter quoted name .value, rest)

def token (fuel : Nat) (cs : List Char) : Except Flaw (Token × List Char) :=
  match fuel with
  | 0 => flaw newlines cs "too deep"
  | fuel + 1 =>
    match skip false cs with
    | [] => .ok (.fileEnd, [])
    | '\n' :: r => .ok (.newline, r)
    | cs =>
      match operator? cs with
      | some (op, rest) => .ok (.operator op, rest)
      | none => do
        let (ps, rest) ← parts fuel .word cs
        match ps, rest with
        | [.text false [c]], d :: _ =>
          if isDigit c && (d = '<' || d = '>') then
            return (.descriptor (c.toNat - '0'.toNat), rest)
          return (.word ps (some c.toString), rest)
        | [.text false text], _ => return (.word ps (some (String.ofList text)), rest)
        | _, _ => return (.word ps none, rest)

/-- Commands with what separates them, up to something else. A complete list ends at a newline. -/
def list (fuel : Nat) (complete : Bool) (cs : List Char) :
    Except Flaw (List Command × List Char) :=
  match fuel with
  | 0 => flaw newlines cs "too deep"
  | fuel + 1 => do
    let cs := if complete then skip false cs else skipNewlines cs.length cs
    let (t, _) ← token fuel cs
    let ends := match t with
      | .fileEnd => true
      | .newline => complete
      | .operator ")" | .operator ";;" => !complete
      | .word _ (some plain) => !complete && enders.contains plain
      | _ => false
    if ends then return ([], cs)
    let (c, rest) ← andOr fuel cs
    match ← token fuel rest with
    | (.operator ";", rest) =>
      let (more, rest) ← list fuel complete rest
      return (c :: more, rest)
    | (.operator "&", rest) =>
      let (more, rest) ← list fuel complete rest
      return (.background c :: more, rest)
    | (.newline, after) =>
      if complete then return ([c], rest)
      let (more, rest) ← list fuel complete after
      return (c :: more, rest)
    | _ => return ([c], rest)

def body (fuel : Nat) (cs : List Char) : Except Flaw (Command × List Char) :=
  match fuel with
  | 0 => flaw newlines cs "too deep"
  | fuel + 1 => do
    match ← list fuel false cs with
    | ([], rest) =>
      match ← token fuel rest with
      | (.fileEnd, _) => return (.sequence [], rest)
      | (t, after) => unexpected newlines after t true
    | (commands, rest) => return (.sequence commands, rest)

/-- Pipelines that depend on how those before them end. -/
def andOr (fuel : Nat) (cs : List Char) : Except Flaw (Command × List Char) :=
  match fuel with
  | 0 => flaw newlines cs "too deep"
  | fuel + 1 => do
    let (first, rest) ← pipeline fuel cs
    andOrAfter fuel first rest

def andOrAfter (fuel : Nat) (first : Command) (cs : List Char) :
    Except Flaw (Command × List Char) :=
  match fuel with
  | 0 => flaw newlines cs "too deep"
  | fuel + 1 => do
    match ← token fuel cs with
    | (.operator "&&", r) =>
      let (second, rest) ← pipeline fuel (skipNewlines r.length r)
      andOrAfter fuel (.both first second) rest
    | (.operator "||", r) =>
      let (second, rest) ← pipeline fuel (skipNewlines r.length r)
      andOrAfter fuel (.either first second) rest
    | _ => return (first, cs)

def pipeline (fuel : Nat) (cs : List Char) : Except Flaw (Command × List Char) :=
  match fuel with
  | 0 => flaw newlines cs "too deep"
  | fuel + 1 => do
    match ← token fuel cs with
    | (.word _ (some "!"), r) =>
      let (c, rest) ← pipeline fuel r
      return (.negated c, rest)
    | _ =>
      let (first, rest) ← command fuel cs
      match ← token fuel rest with
      | (.operator "|", _) =>
        let (more, rest) ← pipeAfter fuel rest
        return (.pipeline (first :: more), rest)
      | _ => return (first, rest)

def pipeAfter (fuel : Nat) (cs : List Char) : Except Flaw (List Command × List Char) :=
  match fuel with
  | 0 => flaw newlines cs "too deep"
  | fuel + 1 => do
    match ← token fuel cs with
    | (.operator "|", r) =>
      let (c, rest) ← command fuel (skipNewlines r.length r)
      let (more, rest) ← pipeAfter fuel rest
      return (c :: more, rest)
    | _ => return ([], cs)

def require (fuel : Nat) (word : String) (cs : List Char) : Except Flaw (List Char) :=
  match fuel with
  | 0 => flaw newlines cs "too deep"
  | fuel + 1 => do
    match ← token fuel cs with
    | (.word ps (some plain), rest) =>
      if plain = word then return rest
      else expecting newlines rest (.word ps (some plain)) (doubleQuoted word)
    | (t, rest) => expecting newlines rest t (doubleQuoted word)

def command (fuel : Nat) (cs : List Char) : Except Flaw (Command × List Char) :=
  match fuel with
  | 0 => flaw newlines cs "too deep"
  | fuel + 1 => do
    let line := lineAt newlines (skip false cs)
    match ← token fuel cs with
    | (.operator "(", r) =>
      let (c, r) ← body fuel r
      match ← token fuel r with
      | (.operator ")", rest) => redirected fuel line (.subshell c) rest
      | (t, rest) => expecting newlines rest t "\")\""
    | (.word ps (some plain), r) =>
      if plain = "\x7b" then
        let (c, r) ← body fuel r
        redirected fuel line c (← require fuel "\x7d" r)
      else if plain = "if" then
        let (c, rest) ← conditional fuel r
        redirected fuel line c rest
      else if plain = "while" || plain = "until" then
        let (test, r) ← body fuel r
        let (c, r) ← body fuel (← require fuel "do" r)
        redirected fuel line (.loop (plain = "until") test c) (← require fuel "done" r)
      else if plain = "for" then
        let (c, rest) ← each fuel line r
        redirected fuel line c rest
      else if plain = "case" then
        let (c, rest) ← choice fuel line r
        redirected fuel line c rest
      else if reserved.contains plain && plain ≠ "in" then
        unexpected newlines r (.word ps (some plain)) true
      else simple fuel line [] [] [] cs
    | (.word _ none, _) => simple fuel line [] [] [] cs
    | (.descriptor _, _) => simple fuel line [] [] [] cs
    | (.operator op, rest) =>
      if redirects op then simple fuel line [] [] [] cs
      else unexpected newlines rest (.operator op) true
    | (t, rest) => unexpected newlines rest t true

def conditional (fuel : Nat) (cs : List Char) : Except Flaw (Command × List Char) :=
  match fuel with
  | 0 => flaw newlines cs "too deep"
  | fuel + 1 => do
    let (test, r) ← body fuel cs
    let (yes, r) ← body fuel (← require fuel "then" r)
    match ← token fuel r with
    | (.word _ (some "elif"), r) =>
      let (no, rest) ← conditional fuel r
      return (.conditional test yes no, rest)
    | (.word _ (some "else"), r) =>
      let (no, r) ← body fuel r
      return (.conditional test yes no, ← require fuel "fi" r)
    | _ => return (.conditional test yes (.sequence []), ← require fuel "fi" r)

def wordsOf (fuel : Nat) (cs : List Char) : Except Flaw (List (List Part) × List Char) :=
  match fuel with
  | 0 => flaw newlines cs "too deep"
  | fuel + 1 => do
    match ← token fuel cs with
    | (.word ps _, r) =>
      let (more, rest) ← wordsOf fuel r
      return (ps :: more, rest)
    | (.newline, rest) => return ([], rest)
    | (.operator ";", rest) => return ([], rest)
    | (t, rest) => unexpected newlines rest t false

def each (fuel line : Nat) (cs : List Char) : Except Flaw (Command × List Char) :=
  match fuel with
  | 0 => flaw newlines cs "too deep"
  | fuel + 1 => do
    match ← token fuel cs with
    | (.word _ (some name), r) =>
      match name.toList with
      | c :: rest =>
        if !(startsName c && rest.all continuesName) then flaw newlines r "Bad for loop variable"
        else
          let r := skipNewlines r.length r
          let (words?, r) ← match ← token fuel r with
            | (.word _ (some "in"), r) => do
              let (words, rest) ← wordsOf fuel r
              pure (some words, rest)
            | (.operator ";", rest) => pure (none, rest)
            | _ => pure (none, r)
          let r := skipNewlines r.length r
          let (c, r) ← body fuel (← require fuel "do" r)
          return (.each line name words? c, ← require fuel "done" r)
      | [] => flaw newlines r "Bad for loop variable"
    | (_, rest) => flaw newlines rest "Bad for loop variable"

def patterns (fuel : Nat) (cs : List Char) : Except Flaw (List (List Part) × List Char) :=
  match fuel with
  | 0 => flaw newlines cs "too deep"
  | fuel + 1 => do
    match ← token fuel cs with
    | (.word ps _, r) =>
      match ← token fuel r with
      | (.operator "|", r) =>
        let (more, rest) ← patterns fuel r
        return (ps :: more, rest)
      | (.operator ")", rest) => return ([ps], rest)
      | (t, rest) => expecting newlines rest t "\")\""
    | (t, rest) => unexpected newlines rest t false

def branches (fuel : Nat) (cs : List Char) :
    Except Flaw (List (List (List Part) × Command) × List Char) :=
  match fuel with
  | 0 => flaw newlines cs "too deep"
  | fuel + 1 => do
    let cs := skipNewlines cs.length cs
    match ← token fuel cs with
    | (.word _ (some "esac"), rest) => return ([], rest)
    | (.fileEnd, rest) => expecting newlines rest .fileEnd "\")\""
    | (t, r) =>
      let (ps, r) ← patterns fuel (match t with
        | .operator "(" => r
        | _ => cs)
      let (commands, r) ← list fuel false r
      match ← token fuel r with
      | (.operator ";;", r) =>
        let (more, rest) ← branches fuel r
        return ((ps, .sequence commands) :: more, rest)
      | (.word _ (some "esac"), rest) => return ([(ps, .sequence commands)], rest)
      | (t, rest) => expecting newlines rest t "\";;\""

def choice (fuel line : Nat) (cs : List Char) : Except Flaw (Command × List Char) :=
  match fuel with
  | 0 => flaw newlines cs "too deep"
  | fuel + 1 => do
    match ← token fuel cs with
    | (.word ps _, r) =>
      let r ← require fuel "in" (skipNewlines r.length r)
      let (bs, rest) ← branches fuel r
      return (.choice line ps bs, rest)
    | (t, rest) => expecting newlines rest t "word"

def redirection (fuel : Nat) (descriptor? : Option Nat) (op : String) (cs : List Char) :
    Except Flaw (Redirection × List Char) :=
  match fuel with
  | 0 => flaw newlines cs "too deep"
  | fuel + 1 => do
    match ← token fuel cs with
    | (.word ps _, rest) =>
      match op with
      | "<" | "<>" => return (.file (descriptor?.getD 0) .read ps, rest)
      | ">" | ">|" => return (.file (descriptor?.getD 1) .write ps, rest)
      | ">>" => return (.file (descriptor?.getD 1) .append ps, rest)
      | ">&" => return (.copy (descriptor?.getD 1) ps, rest)
      | "<&" => return (.copy (descriptor?.getD 0) ps, rest)
      | op =>
        let (mark, quoted) := unquoted ps
        let (line, after) := rest.span (· ≠ '\n')
        let (text, after) := hereLines mark (op = "<<-") after.length after.tail
        if quoted then return (.here [.text true text], line ++ '\n' :: after)
        else
          let (ps, _) ← parts fuel .here text
          return (.here ps, line ++ '\n' :: after)
    | (t, rest) => unexpected newlines rest t false

def redirections (fuel : Nat) (cs : List Char) : Except Flaw (List Redirection × List Char) :=
  match fuel with
  | 0 => flaw newlines cs "too deep"
  | fuel + 1 => do
    match ← token fuel cs with
    | (.descriptor n, r) =>
      match ← token fuel r with
      | (.operator op, r) =>
        let (one, r) ← redirection fuel (some n) op r
        let (more, rest) ← redirections fuel r
        return (one :: more, rest)
      | _ => return ([], cs)
    | (.operator op, r) =>
      if redirects op then
        let (one, r) ← redirection fuel none op r
        let (more, rest) ← redirections fuel r
        return (one :: more, rest)
      else return ([], cs)
    | _ => return ([], cs)

def redirected (fuel line : Nat) (c : Command) (cs : List Char) :
    Except Flaw (Command × List Char) :=
  match fuel with
  | 0 => flaw newlines cs "too deep"
  | fuel + 1 => do
    match ← redirections fuel cs with
    | ([], rest) => return (c, rest)
    | (rs, rest) => return (.redirected line c rs, rest)

def simple (fuel line : Nat) (assignments : List (String × List Part)) (words : List (List Part))
    (rs : List Redirection) (cs : List Char) : Except Flaw (Command × List Char) :=
  match fuel with
  | 0 => flaw newlines cs "too deep"
  | fuel + 1 => do
    match ← redirections fuel cs with
    | (more@(_ :: _), r) => simple fuel line assignments words (rs ++ more) r
    | ([], _) =>
      match ← token fuel cs with
      | (.word ps plain?, r) =>
        match if words.isEmpty then assignment? ps else none with
        | some a => simple fuel line (assignments ++ [a]) words rs r
        | none =>
          match plain?, ← token fuel r with
          | some name, (.operator "(", after) =>
            if words.isEmpty && assignments.isEmpty && rs.isEmpty then
              match ← token fuel after with
              | (.operator ")", after) =>
                let (c, rest) ← command fuel (skipNewlines after.length after)
                return (.define name c, rest)
              | (t, rest) => expecting newlines rest t "\")\""
            else simple fuel line assignments (words ++ [ps]) rs r
          | _, _ => simple fuel line assignments (words ++ [ps]) rs r
      | (.operator "(", rest) => unexpected newlines rest (.operator "(") true
      | _ => return (.simple line assignments words rs, cs)

end

/-- The next complete command, if there is one, and what follows it. -/
def next (cs : List Char) : Except Flaw (Option (Command × List Char)) := do
  let cs := skipNewlines cs.length cs
  let fuel := 8 * cs.length + 32
  match ← token newlines fuel cs with
  | (.fileEnd, _) => return none
  | _ =>
    let (commands, rest) ← list newlines fuel true cs
    match ← token newlines fuel rest with
    | (.newline, rest) => return some (.sequence commands, rest)
    | (.fileEnd, rest) => return some (.sequence commands, rest)
    | (t, rest) => unexpected newlines rest t true

end

end Reader

end TuneBank.Shell
