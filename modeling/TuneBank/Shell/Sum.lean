import TuneBank.Text.Numeral

/-! Expressions with whole numbers: reading them, and their values. Numbers have 64 bits. -/

namespace TuneBank.Shell.Sum

inductive Flaw where
  | primary
  | closing
  | colon
  | ending
  | zeroDivisor
  | number (text : String)
  deriving DecidableEq

def Flaw.message (expression : String) (f : Flaw) : String :=
  let about (text : String) : String :=
    "arithmetic expression: " ++ text ++ ": \"" ++ expression ++ "\""
  match f with
  | primary => about "expecting primary"
  | closing => about "expecting ')'"
  | colon => about "expecting ':'"
  | ending => about "expecting EOF"
  | zeroDivisor => about "division by zero"
  | number text => "Illegal number: " ++ text

inductive Item where
  | number (n : Int)
  | name (s : String)
  | operator (s : String)
  deriving DecidableEq

/-- Operators, a longer one before those that it starts with. -/
def operators : List String :=
  ["<<=", ">>=", "<<", ">>", "<=", ">=", "==", "!=", "&&", "||", "+=", "-=", "*=", "/=", "%=",
    "&=", "|=", "^="]

def isDigit (c : Char) : Bool := '0' ≤ c && c ≤ '9'

def isLetter (c : Char) : Bool := ('a' ≤ c && c ≤ 'z') || ('A' ≤ c && c ≤ 'Z') || c = '_'

def isBlank (c : Char) : Bool := c = ' ' || c = '\t' || c = '\n'

def digits (radix : Nat) : Nat → List Char → Nat × List Char
  | n, [] => (n, [])
  | n, c :: cs =>
    match Text.Base.hex.digit? c with
    | some d => if d < radix then digits radix (n * radix + d) cs else (n, c :: cs)
    | none => (n, c :: cs)

/-- A number that starts with a digit; a zero in front makes it octal, and an x after that
hexadecimal. -/
def natural (cs : List Char) : Nat × List Char :=
  match cs with
  | '0' :: x :: c :: r =>
    if (x = 'x' || x = 'X') && (Text.Base.hex.digit? c).isSome then digits 16 0 (c :: r)
    else digits 8 0 cs
  | '0' :: _ => digits 8 0 cs
  | _ => digits 10 0 cs

def largest : Int := 0x7FFFFFFFFFFFFFFF

def wrap (n : Int) : Int := n.bmod UInt64.size

def items : Nat → List Char → List Item
  | 0, _ => []
  | _, [] => []
  | n + 1, c :: cs =>
    if isBlank c then items n cs
    else if isDigit c then
      let (k, rest) := natural (c :: cs)
      .number (min largest k) :: items n rest
    else if isLetter c then
      let (name, rest) := (c :: cs).span fun d => isDigit d || isLetter d
      .name (String.ofList name) :: items n rest
    else
      match operators.find? fun op => op.toList.isPrefixOf (c :: cs) with
      | some op => .operator op :: items n ((c :: cs).drop op.length)
      | none => .operator c.toString :: items n cs

inductive Unary where
  | plus
  | minus
  | complement
  | not

inductive Binary where
  | or
  | xor
  | and
  | equal
  | unequal
  | less
  | lessEqual
  | greater
  | greaterEqual
  | shiftLeft
  | shiftRight
  | add
  | subtract
  | multiply
  | divide
  | remainder

inductive Expression where
  | number (n : Int)
  | name (s : String)
  | unary (op : Unary) (e : Expression)
  | binary (op : Binary) (a b : Expression)
  | both (a b : Expression)
  | either (a b : Expression)
  | choice (test yes no : Expression)
  | assign (name : String) (op? : Option Binary) (e : Expression)

def unary? (op : String) : Option Unary :=
  match op with
  | "+" => some .plus
  | "-" => some .minus
  | "~" => some .complement
  | "!" => some .not
  | _ => none

/-- How tightly an operator between two operands binds, and what it makes of them. -/
def level? (op : String) : Option (Nat × (Expression → Expression → Expression)) :=
  match op with
  | "||" => some (1, .either)
  | "&&" => some (2, .both)
  | "|" => some (3, .binary .or)
  | "^" => some (4, .binary .xor)
  | "&" => some (5, .binary .and)
  | "==" => some (6, .binary .equal)
  | "!=" => some (6, .binary .unequal)
  | "<" => some (7, .binary .less)
  | "<=" => some (7, .binary .lessEqual)
  | ">" => some (7, .binary .greater)
  | ">=" => some (7, .binary .greaterEqual)
  | "<<" => some (8, .binary .shiftLeft)
  | ">>" => some (8, .binary .shiftRight)
  | "+" => some (9, .binary .add)
  | "-" => some (9, .binary .subtract)
  | "*" => some (10, .binary .multiply)
  | "/" => some (10, .binary .divide)
  | "%" => some (10, .binary .remainder)
  | _ => none

def assignment? (op : String) : Option (Option Binary) :=
  match op with
  | "=" => some none
  | "|=" => some (some .or)
  | "^=" => some (some .xor)
  | "&=" => some (some .and)
  | "<<=" => some (some .shiftLeft)
  | ">>=" => some (some .shiftRight)
  | "+=" => some (some .add)
  | "-=" => some (some .subtract)
  | "*=" => some (some .multiply)
  | "/=" => some (some .divide)
  | "%=" => some (some .remainder)
  | _ => none

mutual

def primary (fuel : Nat) (is : List Item) : Except Flaw (Expression × List Item) :=
  match fuel with
  | 0 => .error .primary
  | fuel + 1 =>
    match is with
    | .number n :: rest => .ok (.number n, rest)
    | .name s :: rest => .ok (.name s, rest)
    | .operator "(" :: rest => do
      match ← assignment fuel rest with
      | (e, .operator ")" :: rest) => return (e, rest)
      | _ => throw .closing
    | .operator op :: rest => do
      match unary? op with
      | none => throw .primary
      | some op =>
        let (e, rest) ← primary fuel rest
        return (.unary op e, rest)
    | [] => .error .primary

def operations (fuel : Nat) (least : Nat) (first : Expression) (is : List Item) :
    Except Flaw (Expression × List Item) :=
  match fuel with
  | 0 => .error .primary
  | fuel + 1 =>
    match is with
    | .operator op :: rest =>
      match level? op with
      | none => .ok (first, is)
      | some (level, make) =>
        if level < least then .ok (first, is)
        else do
          let (second, rest) ← primary fuel rest
          let (second, rest) ← operations fuel (level + 1) second rest
          operations fuel least (make first second) rest
    | is => .ok (first, is)

def choice (fuel : Nat) (is : List Item) : Except Flaw (Expression × List Item) :=
  match fuel with
  | 0 => .error .primary
  | fuel + 1 => do
    let (first, rest) ← primary fuel is
    match ← operations fuel 1 first rest with
    | (test, .operator "?" :: rest) =>
      match ← assignment fuel rest with
      | (yes, .operator ":" :: rest) =>
        let (no, rest) ← choice fuel rest
        return (.choice test yes no, rest)
      | _ => throw .colon
    | result => return result

def assignment (fuel : Nat) (is : List Item) : Except Flaw (Expression × List Item) :=
  match fuel with
  | 0 => .error .primary
  | fuel + 1 =>
    match is with
    | .name s :: .operator op :: rest =>
      match assignment? op with
      | none => choice fuel is
      | some op? => do
        let (e, rest) ← assignment fuel rest
        return (.assign s op? e, rest)
    | is => choice fuel is

end

def read (cs : List Char) : Except Flaw Expression := do
  let is := items cs.length cs
  match ← assignment (6 * is.length + 8) is with
  | (e, []) => return e
  | _ => throw .ending

def truth (b : Bool) : Int := if b then 1 else 0

def bits (n : Int) : Nat := (n % UInt64.size).toNat

def Unary.value (op : Unary) (n : Int) : Int :=
  match op with
  | plus => n
  | minus => wrap (-n)
  | complement => wrap (-n - 1)
  | not => truth (n = 0)

def Binary.value (op : Binary) (a b : Int) : Except Flaw Int :=
  match op with
  | or => .ok (wrap (bits a ||| bits b))
  | xor => .ok (wrap (bits a ^^^ bits b))
  | and => .ok (wrap (bits a &&& bits b))
  | equal => .ok (truth (a = b))
  | unequal => .ok (truth (a ≠ b))
  | less => .ok (truth (a < b))
  | lessEqual => .ok (truth (a ≤ b))
  | greater => .ok (truth (b < a))
  | greaterEqual => .ok (truth (b ≤ a))
  | shiftLeft => .ok (wrap (a * (1 <<< (bits b % 64) : Nat)))
  | shiftRight => .ok (a >>> (bits b % 64))
  | add => .ok (wrap (a + b))
  | subtract => .ok (wrap (a - b))
  | multiply => .ok (wrap (a * b))
  | divide => if b = 0 then .error .zeroDivisor else .ok (wrap (a.tdiv b))
  | remainder => if b = 0 then .error .zeroDivisor else .ok (a.tmod b)

def ofText (text : String) : Except Flaw Int :=
  let value (sign : Int) (cs : List Char) : Except Flaw Int :=
    match natural cs with
    | (n, rest) =>
      if cs.head?.any isDigit && n ≤ largest && rest.all isBlank then .ok (sign * n)
      else .error (.number text)
  match text.toList.dropWhile isBlank with
  | [] => .ok 0
  | '-' :: cs => value (-1) cs
  | '+' :: cs => value 1 cs
  | cs => value 1 cs

/-- The value of an expression. Variables that it assigns are kept, the last of them first; the
others have the value of their text. -/
def Expression.value (text : String → String) :
    Expression → StateT (List (String × Int)) (Except Flaw) Int
  | number n => return n
  | name s => do
    match (← get).lookup s with
    | some n => return n
    | none => ofText (text s)
  | unary op e => do return op.value (← e.value text)
  | binary op a b => do
    let m ← a.value text
    let n ← b.value text
    op.value m n
  | both a b => do
    if (← a.value text) = 0 then return 0
    else return truth ((← b.value text) ≠ 0)
  | either a b => do
    if (← a.value text) ≠ 0 then return 1
    else return truth ((← b.value text) ≠ 0)
  | choice test yes no => do
    if (← test.value text) ≠ 0 then yes.value text else no.value text
  | assign s op? e => do
    let n ← e.value text
    let n ← match op? with
      | none => pure n
      | some op => do
        let m ← match (← get).lookup s with
          | some m => pure m
          | none => ofText (text s)
        op.value m n
    modify ((s, n) :: ·)
    return n

def run (text : String → String) (cs : List Char) : Except Flaw (Int × List (String × Int)) := do
  ((← read cs).value text).run []

def shown (n : Int) : String :=
  if n < 0 then "-" ++ Text.decimal n.natAbs else Text.decimal n.natAbs

end TuneBank.Shell.Sum
