/-! Numbers as text: the fields of an export are read in base ten or sixteen with an optional
plus sign, and reports write them back with capital digits, padded to a width.
`Base.read?` and `Base.write` are the two directions. -/

namespace TuneBank.Text

inductive Base where
  | decimal
  | hex
  deriving DecidableEq

namespace Base

def radix : Base → Nat
  | decimal => 10
  | hex => 16

theorem one_lt_radix (b : Base) : 1 < b.radix := by
  cases b <;> decide

/-- The value of a digit of this base; letters count in either case. -/
def digit? (b : Base) (c : Char) : Option Nat :=
  if '0' ≤ c ∧ c ≤ '9' then some (c.toNat - '0'.toNat)
  else match b with
    | decimal => none
    | hex =>
      if 'a' ≤ c ∧ c ≤ 'f' then some (c.toNat - 'a'.toNat + 10)
      else if 'A' ≤ c ∧ c ≤ 'F' then some (c.toNat - 'A'.toNat + 10)
      else none

def readFrom? (b : Base) : Nat → List Char → Option Nat
  | n, [] => some n
  | n, c :: cs =>
    match b.digit? c with
    | some d => b.readFrom? (b.radix * n + d) cs
    | none => none

def digits? (b : Base) : List Char → Option Nat
  | [] => none
  | c :: cs => b.readFrom? 0 (c :: cs)

/-- An unsigned number: one plus sign may stand before the digits. -/
def read? (b : Base) : List Char → Option Nat
  | '+' :: cs => b.digits? cs
  | cs => b.digits? cs

def digitChar (n : Nat) : Char :=
  if n < 10 then Char.ofNat ('0'.toNat + n) else Char.ofNat ('A'.toNat + (n - 10))

def write (b : Base) (n : Nat) : List Char :=
  if n < b.radix then [digitChar n]
  else b.write (n / b.radix) ++ [digitChar (n % b.radix)]
termination_by n
decreasing_by
  exact Nat.div_lt_self (by have := b.one_lt_radix; omega) b.one_lt_radix

end Base

def natural? (b : Base) (bound : Nat) (s : String) : Option Nat :=
  (b.read? s.toList).filter (· < bound)

def byte? (b : Base) (s : String) : Option UInt8 :=
  (natural? b 256 s).map UInt8.ofNat

/-- A signed decimal number in the range of `bits` bits; the digits follow at most one sign. -/
def integer? (bits : Nat) (s : String) : Option Int :=
  let value : Option Int := match s.toList with
    | '-' :: cs => (Base.decimal.digits? cs).map fun n => -(n : Int)
    | cs => (Base.decimal.read? cs).map fun n => (n : Int)
  let bound : Int := Nat.pow 2 (bits - 1)
  value.filter fun i => -bound ≤ i ∧ i < bound

def padLeft (width : Nat) (fill : Char) (cs : List Char) : List Char :=
  List.replicate (width - cs.length) fill ++ cs

def decimal (n : Nat) : String :=
  String.ofList (Base.decimal.write n)

def hex (width : Nat) (n : Nat) : String :=
  String.ofList (padLeft width '0' (Base.hex.write n))

def hexByte (b : UInt8) : String :=
  hex 2 b.toNat

def signed : Int → String
  | .ofNat n => decimal n
  | .negSucc n => "-" ++ decimal (n + 1)

def column (width : Nat) (n : Nat) : String :=
  String.ofList (padLeft width ' ' (Base.decimal.write n))

def twoDigits (n : Nat) : String :=
  String.ofList (padLeft 2 '0' (Base.decimal.write n))

end TuneBank.Text
