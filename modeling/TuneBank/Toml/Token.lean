import TuneBank.Text.Numeral

/-! The tokens of a settings document. Strings are decoded here; words are the runs of all other
characters, which are keys or values depending on where they stand. Comments leave no token. -/

namespace TuneBank.Toml

inductive Token where
  | dot
  | equals
  | comma
  | openBracket
  | closeBracket
  | openBrace
  | closeBrace
  | newline
  | blank (run : List Char)
  | text (value : String) (multiline : Bool)
  | word (chars : List Char)
  deriving DecidableEq

/-- Control characters, which stand in no string and no comment. A tab is not one of them. -/
def isControl (c : Char) : Bool :=
  (c.toNat < 0x20 && c ≠ '\t') || c.toNat = 0x7F

def isSpace (c : Char) : Bool := c = ' ' || c = '\t'

/-- Characters that end a word. Quotes are not among them. -/
def endsWord (c : Char) : Bool :=
  isSpace c || c = '\n' || c = '\r' || c = '.' || c = '=' || c = ',' || c = '[' || c = ']'
    || c = '\x7b' || c = '\x7d' || c = '#'

/-- The character with this number, written in hexadecimal digits; surrogates are none. -/
def numbered? (digits : List Char) : Option Char :=
  match Text.Base.hex.digits? digits with
  | some n => if n.isValidChar then some (Char.ofNat n) else none
  | none => none

def escape? : List Char → Option (Char × List Char)
  | 'b' :: r => some ('\x08', r)
  | 't' :: r => some ('\t', r)
  | 'n' :: r => some ('\n', r)
  | 'f' :: r => some ('\x0c', r)
  | 'r' :: r => some ('\r', r)
  | 'e' :: r => some ('\x1b', r)
  | '"' :: r => some ('"', r)
  | '\\' :: r => some ('\\', r)
  | 'x' :: a :: b :: r => (numbered? [a, b]).map (·, r)
  | 'u' :: a :: b :: c :: d :: r => (numbered? [a, b, c, d]).map (·, r)
  | 'U' :: a :: b :: c :: d :: e :: f :: g :: h :: r =>
    (numbered? [a, b, c, d, e, f, g, h]).map (·, r)
  | _ => none

theorem length_escape? {cs r : List Char} {c : Char} (h : escape? cs = some (c, r)) :
    r.length < cs.length := by
  unfold escape? at h
  split at h <;> simp_all <;> grind

def basicString (read : List Char) : List Char → Option (String × List Char)
  | [] => none
  | c :: cs =>
    if c = '"' then some (String.ofList read.reverse, cs)
    else if c = '\\' then
      match _h : escape? cs with
      | some (d, r) => basicString (d :: read) r
      | none => none
    else if isControl c then none
    else basicString (c :: read) cs
termination_by cs => cs.length
decreasing_by
  · have := length_escape? _h
    simp; omega
  · simp

def literalString (read : List Char) : List Char → Option (String × List Char)
  | [] => none
  | c :: cs =>
    if c = '\'' then some (String.ofList read.reverse, cs)
    else if isControl c then none
    else literalString (c :: read) cs

/-- Up to two quotes before the closing three belong to the string. -/
def closing? (q : Char) : List Char → Option (List Char × List Char)
  | a :: b :: c :: d :: e :: r =>
    if a = q ∧ b = q ∧ c = q then
      if d = q then if e = q then some ([q, q], r) else some ([q], e :: r)
      else some ([], d :: e :: r)
    else none
  | [a, b, c, d] =>
    if a = q ∧ b = q ∧ c = q then if d = q then some ([q], []) else some ([], [d]) else none
  | [a, b, c] => if a = q ∧ b = q ∧ c = q then some ([], []) else none
  | _ => none

def lineBreak? : List Char → Option (List Char)
  | '\n' :: r => some r
  | '\r' :: '\n' :: r => some r
  | _ => none

theorem length_lineBreak? {cs r : List Char} (h : lineBreak? cs = some r) :
    r.length < cs.length := by
  unfold lineBreak? at h
  split at h
  · cases h
    exact Nat.lt_succ_self _
  · cases h
    simp only [List.length_cons]
    omega
  · cases h

def skipBreaks : List Char → List Char
  | '\r' :: '\n' :: r => skipBreaks r
  | c :: r => if isSpace c || c = '\n' then skipBreaks r else c :: r
  | [] => []

theorem length_skipBreaks (cs : List Char) : (skipBreaks cs).length ≤ cs.length := by
  fun_induction skipBreaks cs <;> simp_all <;> omega

/-- The rest of a string that may run over lines. A backslash at the end of a line drops the
break and all blanks and breaks after it. -/
def longBasicString (read : List Char) (cs : List Char) : Option (String × List Char) :=
  match closing? '"' cs with
  | some (quotes, r) => some (String.ofList (read.reverse ++ quotes), r)
  | none =>
    match cs with
    | [] => none
    | c :: cs =>
      if c = '\\' then
        match _h : lineBreak? (cs.dropWhile isSpace) with
        | some r => longBasicString read (skipBreaks r)
        | none =>
          match _h : escape? cs with
          | some (d, r) => longBasicString (d :: read) r
          | none => none
      else if c = '\r' then
        match _h : lineBreak? (c :: cs) with
        | some r => longBasicString ('\n' :: '\r' :: read) r
        | none => none
      else if isControl c && c ≠ '\n' then none
      else longBasicString (c :: read) cs
termination_by cs.length
decreasing_by
  · have h1 := length_lineBreak? _h
    have h2 := length_skipBreaks r
    have h3 := (List.dropWhile_suffix (l := cs) isSpace).length_le
    simp; omega
  · have := length_escape? _h
    simp; omega
  · have := length_lineBreak? _h
    simp at this ⊢; omega
  · simp

def longLiteralString (read : List Char) (cs : List Char) : Option (String × List Char) :=
  match closing? '\'' cs with
  | some (quotes, r) => some (String.ofList (read.reverse ++ quotes), r)
  | none =>
    match cs with
    | [] => none
    | c :: cs =>
      if c = '\r' then
        match _h : lineBreak? (c :: cs) with
        | some r => longLiteralString ('\n' :: '\r' :: read) r
        | none => none
      else if isControl c && c ≠ '\n' then none
      else longLiteralString (c :: read) cs
termination_by cs.length
decreasing_by
  · have := length_lineBreak? _h
    simp at this ⊢; omega
  · simp

/-- A line break right after the opening quotes is no part of the string. -/
def dropFirstBreak (cs : List Char) : List Char := (lineBreak? cs).getD cs

/-- The first token of a text and what follows it; a comment is passed over with no token. -/
def scan? (c : Char) (cs : List Char) : Option (Option Token × List Char) :=
  let one (t : Token) : Option (Option Token × List Char) := some (some t, cs)
  let string (long : Bool) (r : Option (String × List Char)) :=
    r.map fun (s, rest) => (some (Token.text s long), rest)
  match c with
  | '.' => one .dot
  | '=' => one .equals
  | ',' => one .comma
  | '[' => one .openBracket
  | ']' => one .closeBracket
  | '\x7b' => one .openBrace
  | '\x7d' => one .closeBrace
  | '\n' => one .newline
  | '\r' => (lineBreak? (c :: cs)).map (some .newline, ·)
  | '#' =>
    let (comment, rest) := cs.span fun d => d ≠ '\n'
    let body :=
      if comment.getLast? = some '\r' && !rest.isEmpty then comment.dropLast else comment
    if body.any isControl then none else some (none, rest)
  | '"' =>
    match cs with
    | '"' :: '"' :: r => string true (longBasicString [] (dropFirstBreak r))
    | _ => string false (basicString [] cs)
  | '\'' =>
    match cs with
    | '\'' :: '\'' :: r => string true (longLiteralString [] (dropFirstBreak r))
    | _ => string false (literalString [] cs)
  | c =>
    if isSpace c then
      let (run, rest) := cs.span isSpace
      some (some (.blank (c :: run)), rest)
    else
      let (run, rest) := cs.span fun d => !endsWord d
      some (some (.word (c :: run)), rest)

def tokensFrom : Nat → List Char → Option (List Token)
  | _, [] => some []
  | 0, _ => none
  | n + 1, c :: cs => do
    let (token, rest) ← scan? c cs
    let tokens ← tokensFrom n rest
    return token.toList ++ tokens

def tokens? (document : List Char) : Option (List Token) :=
  tokensFrom document.length document

end TuneBank.Toml
