import TuneBank.Toml.Number

/-! Values that are written without quotes: booleans, numbers, dates and times. Settings use
the booleans alone; of dates and times only the form matters. -/

namespace TuneBank.Toml

inductive Scalar where
  | boolean (b : Bool)
  | number (n : Number)
  | dateTime
  deriving DecidableEq

namespace Scalar

def pair? (a b : Char) : Option Nat :=
  if isDigit a && isDigit b then Text.Base.decimal.digits? [a, b] else none

def daysIn (year month : Nat) : Nat :=
  if month = 2 then
    if year % 4 = 0 ∧ (year % 100 ≠ 0 ∨ year % 400 = 0) then 29 else 28
  else if month = 4 ∨ month = 6 ∨ month = 9 ∨ month = 11 then 30
  else 31

def date? : List Char → Option (List Char)
  | a :: b :: c :: d :: '-' :: e :: f :: '-' :: g :: h :: r => do
    let century ← pair? a b
    let year ← pair? c d
    let month ← pair? e f
    let day ← pair? g h
    if 1 ≤ month ∧ month ≤ 12 ∧ 1 ≤ day ∧ day ≤ daysIn (100 * century + year) month then some r
    else none
  | _ => none

def hourMinute? : List Char → Option (List Char)
  | a :: b :: ':' :: c :: d :: r => do
    let hour ← pair? a b
    let minute ← pair? c d
    if hour < 24 ∧ minute < 60 then some r else none
  | _ => none

def time? (cs : List Char) : Option (List Char) := do
  match ← hourMinute? cs with
  | ':' :: a :: b :: r =>
    if (← pair? a b) ≤ 60 then
      match r with
      | '.' :: r =>
        let (part, rest) := r.span isDigit
        if part.isEmpty then none else some rest
      | r => some r
    else none
  | r => some r

def isOffset : List Char → Bool
  | [] => true
  | ['Z'] | ['z'] => true
  | '+' :: r | '-' :: r => hourMinute? r = some []
  | _ => false

def isDateTime (cs : List Char) : Bool :=
  match date? cs with
  | some [] => true
  | some (c :: r) => (c = 'T' || c = 't' || c = ' ') && (time? r).any isOffset
  | none => time? cs = some []

def inRange : Scalar → Bool
  | number n => n.inRange
  | _ => true

end Scalar

def scalar? (cs : List Char) : Option Scalar :=
  if cs = "true".toList then some (.boolean true)
  else if cs = "false".toList then some (.boolean false)
  else
    match Number.ofChars? cs with
    | some n => some (.number n)
    | none => if Scalar.isDateTime cs then some .dateTime else none

end TuneBank.Toml
