import TuneBank.Text.Numeral

/-! What `echo` and `printf` make of their arguments. -/

namespace TuneBank.Shell

def bytesOf (cs : List Char) : List UInt8 := (String.ofList cs).toUTF8.toList

namespace Format

def octal? (c : Char) : Option Nat :=
  if '0' ≤ c && c ≤ '7' then some (c.toNat - '0'.toNat) else none

def octalByte : Nat → Nat → List Char → Nat × List Char
  | 0, value, cs => (value, cs)
  | _, value, [] => (value, [])
  | n + 1, value, c :: cs =>
    match octal? c with
    | some digit => octalByte n (8 * value + digit) cs
    | none => (value, c :: cs)

def control? (c : Char) : Option UInt8 :=
  match c with
  | 'a' => some 7
  | 'b' => some 8
  | 'e' => some 27
  | 'f' => some 12
  | 'n' => some 10
  | 'r' => some 13
  | 't' => some 9
  | 'v' => some 11
  | '\\' => some 0x5C
  | _ => none

structure Printed where
  bytes : List UInt8
  ends : Bool
  deriving DecidableEq

def Printed.after (bytes : List UInt8) (p : Printed) : Printed := ⟨bytes ++ p.bytes, p.ends⟩

/-- Read the escapes of a text, at most one character in every step. An octal number of the
argument of `echo` may start with one more zero. Nothing is printed after `\c`. -/
def escapesIn (isArgument : Bool) : Nat → List Char → Printed
  | 0, _ => ⟨[], false⟩
  | _, [] => ⟨[], false⟩
  | n + 1, '\\' :: c :: cs =>
    if c = 'c' && isArgument then ⟨[], true⟩
    else
      match control? c, octal? c with
      | some b, _ => (escapesIn isArgument n cs).after [b]
      | none, some _ =>
        let digits := match c, cs with
          | '0', d :: _ => if isArgument && (octal? d).isSome then cs else c :: cs
          | _, _ => c :: cs
        let (value, rest) := octalByte 3 0 digits
        (escapesIn isArgument n rest).after [UInt8.ofNat value]
      | none, none => (escapesIn isArgument n (c :: cs)).after [0x5C]
  | n + 1, c :: cs => (escapesIn isArgument n cs).after (bytesOf [c])

def escapes (isArgument : Bool) (text : String) : Printed :=
  escapesIn isArgument text.length text.toList

def joined : List Printed → Printed
  | [] => ⟨[], false⟩
  | [p] => p
  | p :: ps => if p.ends then p else (joined ps).after (p.bytes ++ [0x20])

/-- What `echo` prints where escapes are always read: an option `-n` in front drops the newline. -/
def echo (arguments : List String) : List UInt8 :=
  let (newline, arguments) := match arguments with
    | "-n" :: arguments => (false, arguments)
    | arguments => (true, arguments)
  let p := joined (arguments.map (escapes true))
  p.bytes ++ if newline && !p.ends then [0x0A] else []

/-- The options of the plain `echo`: whether a newline follows, and whether escapes are read. -/
def echoOptions (newline escaped : Bool) : List String → Bool × Bool × List String
  | [] => (newline, escaped, [])
  | a :: arguments =>
    match a.toList with
    | '-' :: letters =>
      if letters.isEmpty || letters.any (fun c => c ≠ 'n' && c ≠ 'e' && c ≠ 'E') then
        (newline, escaped, a :: arguments)
      else
        let escaped := letters.foldl
          (fun before c => if c = 'n' then before else decide (c = 'e')) escaped
        echoOptions (newline && !letters.contains 'n') escaped arguments
    | _ => (newline, escaped, a :: arguments)

def plainEcho (arguments : List String) : List UInt8 :=
  let (newline, escaped, arguments) := echoOptions true false arguments
  let p := joined (arguments.map fun a =>
    if escaped then escapes true a else ⟨a.toUTF8.toList, false⟩)
  p.bytes ++ if newline && !p.ends then [0x0A] else []

structure Field where
  left : Bool
  zeros : Bool
  plus : Bool
  width : Nat
  precision? : Option Nat

def padded (f : Field) (bytes : List UInt8) : List UInt8 :=
  let fill := List.replicate (f.width - bytes.length)
  if f.left then bytes ++ fill 0x20 else fill 0x20 ++ bytes

def flags (f : Field) : List Char → Field × List Char
  | '-' :: cs => flags { f with left := true } cs
  | '0' :: cs => flags { f with zeros := true } cs
  | '+' :: cs => flags { f with plus := true } cs
  | cs => (f, cs)

def number (cs : List Char) : Nat × List Char :=
  let (digits, rest) := cs.span fun c => '0' ≤ c && c ≤ '9'
  (((Text.Base.decimal.digits? digits).getD 0), rest)

def field (cs : List Char) : Field × List Char :=
  let (f, cs) := flags ⟨false, false, false, 0, none⟩ cs
  let (width, cs) := number cs
  match cs with
  | '.' :: cs =>
    let (precision, cs) := number cs
    ({ f with width := width, precision? := some precision }, cs)
  | cs => ({ f with width := width }, cs)

def signed (f : Field) (negative : Bool) (digits : List Char) : List UInt8 :=
  let sign := if negative then ['-'] else if f.plus then ['+'] else []
  let digits := List.replicate (f.precision?.getD 0 - digits.length) '0' ++ digits
  let zeros := if f.zeros && !f.left && f.precision?.isNone then
      List.replicate (f.width - sign.length - digits.length) '0'
    else []
  padded f (bytesOf (sign ++ zeros ++ digits))

def integer (text : String) : Int :=
  match text.toList with
  | '-' :: cs => -((number cs).1 : Int)
  | '+' :: cs => (number cs).1
  | cs => (number cs).1

def isConversion (c : Char) : Bool := "sbcdiuxXo".toList.contains c

def conversion (f : Field) (c : Char) (argument : String) : Printed :=
  let cut (bytes : List UInt8) : List UInt8 :=
    match f.precision? with
    | some n => bytes.take n
    | none => bytes
  match c with
  | 's' => ⟨padded f (cut argument.toUTF8.toList), false⟩
  | 'b' =>
    let p := escapes true argument
    ⟨padded f (cut p.bytes), p.ends⟩
  | 'c' => ⟨padded f (argument.toUTF8.toList.take 1), false⟩
  | 'x' => ⟨signed f false (Nat.toDigits 16 (integer argument).toNat), false⟩
  | 'X' => ⟨signed f false ((Nat.toDigits 16 (integer argument).toNat).map Char.toUpper), false⟩
  | 'o' => ⟨signed f false (Nat.toDigits 8 (integer argument).toNat), false⟩
  | _ => ⟨signed f (integer argument < 0) (Nat.toDigits 10 (integer argument).natAbs), false⟩

/-- Use a format once, at most one character in every step. The arguments that it does not use
are left. -/
def formatOnce : Nat → List Char → List String → Printed × List String
  | 0, _, arguments => (⟨[], false⟩, arguments)
  | _, [], arguments => (⟨[], false⟩, arguments)
  | n + 1, '%' :: '%' :: cs, arguments =>
    let (p, rest) := formatOnce n cs arguments
    (p.after [0x25], rest)
  | n + 1, '%' :: cs, arguments =>
    match field cs with
    | (f, c :: cs) =>
      if isConversion c then
        let p := conversion f c (arguments.head?.getD "")
        if p.ends then (p, [])
        else
          let (q, rest) := formatOnce n cs arguments.tail
          (q.after p.bytes, rest)
      else (⟨[], true⟩, [])
    | (_, []) => (⟨[], true⟩, [])
  | n + 1, '\\' :: c :: cs, arguments =>
    let (size, rest) := match octal? c with
      | some _ => (3, (octalByte 3 0 (c :: cs)).2)
      | none => (1, cs)
    let one := escapesIn false 1 ('\\' :: (c :: cs).take size)
    if (control? c).isSome || size = 3 then
      let (p, arguments) := formatOnce n rest arguments
      (p.after one.bytes, arguments)
    else
      let (p, arguments) := formatOnce n (c :: cs) arguments
      (p.after [0x5C], arguments)
  | n + 1, c :: cs, arguments =>
    let (p, rest) := formatOnce n cs arguments
    (p.after (bytesOf [c]), rest)

/-- A format is used again for arguments that are left, if it uses any. -/
def repeated (format : List Char) : Nat → List String → List UInt8
  | 0, _ => []
  | n + 1, arguments =>
    let (p, rest) := formatOnce format.length format arguments
    if p.ends || rest.isEmpty || rest.length = arguments.length then p.bytes
    else p.bytes ++ repeated format n rest

def printf (format : String) (arguments : List String) : List UInt8 :=
  repeated format.toList (arguments.length + 1) arguments

end Format

end TuneBank.Shell
