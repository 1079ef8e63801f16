import TuneBank.Files.Disk

/-! Tests of texts, numbers and files. -/

namespace TuneBank.Shell.Test

inductive Refusal where
  | illegalNumber (text : String)
  | argumentExpected (text : String)
  | unexpectedOperator (text : String)
  | closingParen
  deriving DecidableEq

def Refusal.message : Refusal → String
  | illegalNumber text => "Illegal number: " ++ text
  | argumentExpected text => text ++ ": argument expected"
  | unexpectedOperator text =>
    if text.isEmpty then "unexpected operator" else text ++ ": unexpected operator"
  | closingParen => "closing paren expected"

def unaries : List String :=
  ["-n", "-z", "-e", "-f", "-d", "-r", "-w", "-x", "-s", "-L", "-h", "-b", "-c", "-p", "-S", "-t",
    "-u", "-g", "-k", "-O", "-G"]

def binaries : List String :=
  ["=", "!=", "<", ">", "-eq", "-ne", "-lt", "-le", "-gt", "-ge", "-nt", "-ot", "-ef"]

def number (text : String) : Except Refusal Int :=
  let trimmed := (text.toList.dropWhile (· = ' ')).reverse.dropWhile (· = ' ')
  match (String.ofList trimmed.reverse).toInt? with
  | some n => .ok n
  | none =>
    match trimmed.reverse with
    | '+' :: cs =>
      match (String.ofList cs).toNat? with
      | some n => .ok n
      | none => .error (.illegalNumber text)
    | _ => .error (.illegalNumber text)

def unary (d : Disk) (op word : String) : Bool :=
  match op with
  | "-n" => !word.isEmpty
  | "-z" => word.isEmpty
  | op =>
    match op, d.find word with
    | _, .error _ => false
    | "-e", .ok _ => true
    | "-r", .ok _ => true
    | "-w", .ok _ => true
    | "-O", .ok _ => true
    | "-G", .ok _ => true
    | "-f", .ok n => !n.isDirectory && (match n with | .sink => false | _ => true)
    | "-d", .ok n => n.isDirectory
    | "-x", .ok n => match n with
      | .file _ _ runnable => runnable
      | .sink => false
      | _ => true
    | "-s", .ok n => match n with
      | .file bytes _ _ => !bytes.isEmpty
      | .sink => false
      | _ => true
    | "-c", .ok n => match n with
      | .sink => true
      | _ => false
    | _, .ok _ => false

def binary (d : Disk) (a op b : String) : Except Refusal Bool := do
  match op with
  | "=" => return decide (a = b)
  | "!=" => return decide (a ≠ b)
  | "<" => return decide (a < b)
  | ">" => return decide (b < a)
  | "-eq" => return decide ((← number a) = (← number b))
  | "-ne" => return decide ((← number a) ≠ (← number b))
  | "-lt" => return decide ((← number a) < (← number b))
  | "-le" => return decide ((← number a) ≤ (← number b))
  | "-gt" => return decide ((← number a) > (← number b))
  | "-ge" => return decide ((← number a) ≥ (← number b))
  | "-nt" => return match d.modified a, d.modified b with
    | .ok s, .ok t => t < s
    | _, _ => false
  | "-ot" => return match d.modified a, d.modified b with
    | .ok s, .ok t => s < t
    | _, _ => false
  | _ => return match d.locate a, d.locate b with
    | .ok s, .ok t => s.node?.isSome && s.path = t.path
    | _, _ => false

mutual

def one (fuel : Nat) (d : Disk) (words : List String) : Except Refusal (Bool × List String) :=
  match fuel with
  | 0 => .error .closingParen
  | fuel + 1 =>
    match words with
    | [] => .ok (false, [])
    | a :: op :: b :: rest =>
      if binaries.contains op then do return (← binary d a op b, rest)
      else if a = "!" then do
        let (value, rest) ← one fuel d (op :: b :: rest)
        return (!value, rest)
      else if a = "(" then do
        match ← either fuel d (op :: b :: rest) with
        | (value, ")" :: rest) => return (value, rest)
        | _ => throw .closingParen
      else if unaries.contains a then .ok (unary d a op, b :: rest)
      else .ok (!a.isEmpty, op :: b :: rest)
    | [a, b] =>
      if a = "!" then do
        let (value, rest) ← one fuel d [b]
        return (!value, rest)
      else if unaries.contains a then .ok (unary d a b, [])
      else if binaries.contains b then .error (.argumentExpected b)
      else .ok (!a.isEmpty, [b])
    | [a] => .ok (!a.isEmpty, [])

def both (fuel : Nat) (d : Disk) (words : List String) : Except Refusal (Bool × List String) :=
  match fuel with
  | 0 => .error .closingParen
  | fuel + 1 => do
    match ← one fuel d words with
    | (value, "-a" :: rest) =>
      let (second, rest) ← both fuel d rest
      return (value && second, rest)
    | result => return result

def either (fuel : Nat) (d : Disk) (words : List String) : Except Refusal (Bool × List String) :=
  match fuel with
  | 0 => .error .closingParen
  | fuel + 1 => do
    match ← both fuel d words with
    | (value, "-o" :: rest) =>
      let (second, rest) ← either fuel d rest
      return (value || second, rest)
    | result => return result

end

def holds (d : Disk) (words : List String) : Except Refusal Bool := do
  match ← either (3 * words.length + 3) d words with
  | (value, []) => return value
  | (_, rest) => throw (.unexpectedOperator (words[words.length - rest.length - 1]?.getD ""))

end TuneBank.Shell.Test
