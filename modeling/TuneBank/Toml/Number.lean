import TuneBank.Text.Fields
import TuneBank.Text.Numeral

/-! Numbers of a document. Settings use none, but reading a document through meets all of them,
and one outside the ranges here makes it unreadable: whole numbers have 128 bits, signed or not,
and other numbers must not round to infinity in binary floating point of 64 bits. A document may
also hold text that has the form of a whole number and no value; it too matters only where it is
read. -/

namespace TuneBank.Toml

def isDigit (c : Char) : Bool := '0' ≤ c && c ≤ '9'

def isDigitRun (p : Char → Bool) : List Char → Bool
  | [] => false
  | [c] => p c
  | c :: '_' :: r => p c && isDigitRun p r
  | c :: r => p c && isDigitRun p r

inductive Number where
  | whole (value : Int)
  | scaled (digits : List Char) (power : Int)
  | special
  | void
  deriving DecidableEq

namespace Number

def dropSign : List Char → List Char
  | '+' :: r => r
  | '-' :: r => r
  | r => r

def isNegative (cs : List Char) : Bool := cs.head? = some '-'

def dropUnderscores (cs : List Char) : List Char := cs.filter (· ≠ '_')

def valueIn (radix : Nat) (cs : List Char) : Nat :=
  (dropUnderscores cs).foldl (fun n c => radix * n + (Text.Base.hex.digit? c).getD 0) 0

def isDecimal : List Char → Bool
  | ['0'] => true
  | '0' :: _ => false
  | r => isDigitRun isDigit r

/-- The form of a whole number is wider than its digits. It starts with digits, and an underscore
follows them; every underscore stands alone, between digits of base sixteen. A point or an
exponent would make it another number. -/
def isLoose (cs : List Char) : Bool :=
  let parts := Text.splitAtMark '_' cs
  let isHexDigit (c : Char) : Bool := (Text.Base.hex.digit? c).isSome
  parts.head?.any (fun part => !part.isEmpty && part.all isDigit)
    && parts.tail.all (fun part => part.head?.any isHexDigit)
    && parts.dropLast.all (fun part => part.getLast?.any isHexDigit)
    && !cs.any fun c => c = '.' || c = 'e' || c = 'E' || c = ' '

/-- A number with a base has no sign. No digits at all are void. -/
def based? : List Char → Option Number
  | '0' :: 'x' :: r => run? 16 (fun c => (Text.Base.hex.digit? c).isSome) r
  | '0' :: 'o' :: r => run? 8 (fun c => '0' ≤ c && c ≤ '7') r
  | '0' :: 'b' :: r => run? 2 (fun c => c = '0' || c = '1') r
  | _ => none
where
  run? (radix : Nat) (p : Char → Bool) (r : List Char) : Option Number :=
    if r.isEmpty then some .void
    else if isDigitRun p r then some (.whole (valueIn radix r))
    else none

/-- Exponents take no more digits once they have reached this size. -/
def exponentLimit : Nat := 65536

def exponentValue (cs : List Char) : Int :=
  let size := (dropUnderscores (dropSign cs)).foldl
    (fun n c => if n < exponentLimit then valueIn 10 [c] + 10 * n else n) 0
  if isNegative cs then -(size : Int) else size

def exponent? : List Char → Option Int
  | c :: r =>
    if (c = 'e' || c = 'E') && isDigitRun isDigit (dropSign r) then some (exponentValue r)
    else none
  | [] => none

def ofParts (before after : List Char) (exponent : Int) : Number :=
  let before := dropUnderscores before
  .scaled (before ++ dropUnderscores after) (before.length + exponent)

def fraction? (isWhole : List Char → Bool) (cs : List Char) : Option Number :=
  let (before, rest) := cs.span fun c => isDigit c || c = '_'
  if !isWhole before then none
  else
    match rest with
    | '.' :: r =>
      let (after, rest) := r.span fun c => isDigit c || c = '_'
      if !isDigitRun isDigit after then none
      else if rest.isEmpty then some (ofParts before after 0)
      else (exponent? rest).map (ofParts before after)
    | r => (exponent? r).map (ofParts before [])

/-- A number without a base. The part before its point has to pass a test; where there is no
number, another text may still have the form of one. -/
def unbased? (isWhole : List Char → Bool) (negative : Bool) (cs form : List Char) :
    Option Number :=
  if isWhole cs then
    let size := valueIn 10 cs
    some (.whole (if negative then -(size : Int) else size))
  else
    match fraction? isWhole cs with
    | some n => some n
    | none => if isLoose form then some .void else none

def unsigned? (negative : Bool) (cs : List Char) : Option Number :=
  unbased? isDecimal negative cs (if cs.head? = some '0' then [] else cs)

/-- What follows a sign. An underscore may set it apart from the sign, and then zeros may lead. -/
def signed? (negative : Bool) : List Char → Option Number
  | '_' :: r => unbased? (isDigitRun isDigit) negative r ('1' :: '_' :: r)
  | r => unsigned? negative r

def ofChars? (cs : List Char) : Option Number :=
  if dropSign cs = "inf".toList || dropSign cs = "nan".toList then some .special
  else
    match based? cs with
    | some n => some n
    | none =>
      match cs with
      | '+' :: r => signed? false r
      | '-' :: r => signed? true r
      | r => unsigned? false r

/-- The least number that rounds to infinity. It lies in the middle between the largest finite
number of 64 bits and the power of two above it. -/
def overflowBound : Nat := (Nat.pow 2 54 - 1) * Nat.pow 2 970

def overflowPlaces : Nat := 309

/-- Whether a number is at least the bound. Without its leading zeros it has as many places
before the point as the power says; as many as the bound has are compared with it. -/
def overflows (digits : List Char) (power : Int) : Bool :=
  let digits' := digits.dropWhile (· = '0')
  let places := power - (digits.length - digits'.length : Nat)
  let leading := (digits' ++ List.replicate overflowPlaces '0').take overflowPlaces
  !digits'.isEmpty &&
    ((overflowPlaces : Int) < places
      || places = overflowPlaces && overflowBound ≤ valueIn 10 leading)

def inRange : Number → Bool
  | whole n => -(Nat.pow 2 127 : Int) ≤ n && n < Nat.pow 2 128
  | scaled digits power => !overflows digits power
  | special => true
  | void => false

end Number

end TuneBank.Toml
