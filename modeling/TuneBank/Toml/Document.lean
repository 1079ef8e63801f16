import TuneBank.Toml.Token
import TuneBank.Toml.Value

/-! Documents: lines of keys with their values, under headers that say which table they belong
to. Reading gives the table of everything, or nothing if the document is not sound. -/

namespace TuneBank.Toml

def maxDepth : Nat := 80

/-- Most parts of a dotted key. -/
def maxParts : Nat := 80

def skipBlank : List Token → List Token
  | .blank _ :: ts => ts
  | ts => ts

def skipLines : List Token → List Token
  | .blank _ :: ts => skipLines ts
  | .newline :: ts => skipLines ts
  | ts => ts

def isBareKey (cs : List Char) : Bool :=
  cs.all fun c => isDigit c || ('a' ≤ c && c ≤ 'z') || ('A' ≤ c && c ≤ 'Z')
    || c = '_' || c = '-'

def key? : Token → Option String
  | .text s false => some s
  | .word cs => if isBareKey cs then some (String.ofList cs) else none
  | _ => none

def moreKeys : List Token → Option (List String × List Token)
  | .blank _ :: .dot :: .blank _ :: t :: ts => continueKeys t ts
  | .blank _ :: .dot :: t :: ts => continueKeys t ts
  | .dot :: .blank _ :: t :: ts => continueKeys t ts
  | .dot :: t :: ts => continueKeys t ts
  | .dot :: [] => none
  | ts => some ([], ts)
where
  continueKeys (t : Token) (ts : List Token) : Option (List String × List Token) :=
    match key? t with
    | none => none
    | some key => (moreKeys ts).map fun (keys, rest) => (key :: keys, rest)

def keys? (ts : List Token) : Option (List String × List Token) :=
  match skipBlank ts with
  | [] => none
  | t :: ts =>
    match key? t, moreKeys ts with
    | some key, some (keys, rest) =>
      if keys.length < maxParts then some (key :: keys, rest) else none
    | _, _ => none

/-- Words that dots join belong to one number. -/
def joinedWord : List Token → List Char × List Token
  | .word cs :: ts =>
    let (more, rest) := joinedWord ts
    (cs ++ more, rest)
  | .dot :: .word cs :: ts =>
    let (more, rest) := joinedWord (.word cs :: ts)
    ('.' :: more, rest)
  | ts => ([], ts)

/-- The characters of an unquoted value. A time may follow a date after one space. -/
def scalarChars (ts : List Token) : List Char × List Token :=
  let (cs, rest) := joinedWord ts
  match Scalar.date? cs, rest with
  | some [], .blank [' '] :: .word (c :: word) :: rest' =>
    if isDigit c then
      let (more, rest'') := joinedWord (.word (c :: word) :: rest')
      (cs ++ ' ' :: more, rest'')
    else (cs, rest)
  | _, _ => (cs, rest)

def scalarValue? (ts : List Token) : Option (Value × List Token) :=
  let (cs, rest) := scalarChars ts
  (scalar? cs).map fun s => (.scalar s, rest)

mutual

/-- A value, in at most `fuel` steps and at most `depth` levels below this one. -/
def value? (fuel depth : Nat) (ts : List Token) : Option (Value × List Token) :=
  match fuel with
  | 0 => none
  | fuel + 1 =>
    match ts with
    | .text s _ :: ts => some (.text s, ts)
    | .openBracket :: ts =>
      if depth = 0 then none
      else (items? fuel (depth - 1) ts).map fun (items, rest) => (.array items, rest)
    | .openBrace :: ts =>
      if depth = 0 then none
      else (pairs? fuel (depth - 1) (.empty .inline) ts).map
        fun (t, rest) => (t.toValue, rest)
    | ts => scalarValue? ts

def items? (fuel depth : Nat) (ts : List Token) : Option (List Value × List Token) :=
  match fuel with
  | 0 => none
  | fuel + 1 =>
    match skipLines ts with
    | .closeBracket :: rest => some ([], rest)
    | ts =>
      match value? fuel depth ts with
      | none => none
      | some (v, ts) =>
        match skipLines ts with
        | .comma :: ts => (items? fuel depth ts).map fun (vs, rest) => (v :: vs, rest)
        | .closeBracket :: rest => some ([v], rest)
        | _ => none

/-- The pairs of an inline table up to its brace, added to a table. A comma may stand after the
last. -/
def pairs? (fuel depth : Nat) (t : Table) (ts : List Token) : Option (Table × List Token) :=
  match fuel with
  | 0 => none
  | fuel + 1 =>
    match skipLines ts with
    | .closeBrace :: rest => some (t, rest)
    | ts =>
      match keys? ts with
      | none => none
      | some (keys, ts) =>
        match skipLines ts with
        | .equals :: ts =>
          match value? fuel depth (skipLines ts) with
          | none => none
          | some (v, ts) =>
            match t.insertPath keys v with
            | none => none
            | some t =>
              match skipLines ts with
              | .comma :: ts => pairs? fuel depth t ts
              | .closeBrace :: rest => some (t, rest)
              | _ => none
        | _ => none

end

inductive Statement where
  | header (path : List String)
  | repeatedHeader (path : List String)
  | pair (keys : List String) (v : Value)

def statement? (ts : List Token) : Option (Statement × List Token) :=
  match ts with
  | .openBracket :: .openBracket :: ts => do
    let (path, ts) ← keys? ts
    match skipBlank ts with
    | .closeBracket :: .closeBracket :: rest => some (.repeatedHeader path, rest)
    | _ => none
  | .openBracket :: ts => do
    let (path, ts) ← keys? ts
    match skipBlank ts with
    | .closeBracket :: rest => some (.header path, rest)
    | _ => none
  | ts => do
    let (keys, ts) ← keys? ts
    match skipBlank ts with
    | .equals :: ts =>
      let ts := skipBlank ts
      let (v, rest) ← value? (ts.length + 1) maxDepth ts
      some (.pair keys v, rest)
    | _ => none

structure Draft where
  root : Table
  path : List String

namespace Draft

def start : Draft := ⟨.empty .headed, []⟩

def open? (d : Draft) (path : List String) (begin : String → Table → Option Table) :
    Option Draft := do
  let key ← path.getLast?
  return ⟨← d.root.modifyAt false (begin key) path.dropLast, path⟩

def take? (d : Draft) : Statement → Option Draft
  | .header path => d.open? path Table.openTable
  | .repeatedHeader path => d.open? path Table.openNext
  | .pair keys v => do
    return { d with root := ← d.root.modifyAt false (·.insertPath keys v) d.path }

end Draft

def read? : Nat → Draft → List Token → Option Draft
  | 0, _, _ => none
  | fuel + 1, d, ts =>
    match skipLines ts with
    | [] => some d
    | ts => do
      let (s, ts) ← statement? ts
      let d ← d.take? s
      match skipBlank ts with
      | [] => some d
      | .newline :: rest => read? fuel d rest
      | _ => none

/-- The table that a document describes. A byte order mark may stand before it. -/
def document? (text : String) : Option (List (String × Value)) := do
  let chars := match text.toList with
    | '\ufeff' :: cs => cs
    | cs => cs
  let tokens ← tokens? chars
  let d ← read? (tokens.length + 1) .start tokens
  return d.root.entries

end TuneBank.Toml
