import TuneBank.Text.Capital
import TuneBank.Text.Numeral
import TuneBank.Text.Quoted

/-! Symbols from titles. A symbol holds capitals, digits and underscores and does not start with
a digit; the symbols of one list are all different. -/

namespace TuneBank

inductive TitleWarning where
  | sanitized (title ident : String)
  | duplicate (ident renamed : String)
  deriving DecidableEq

def TitleWarning.message : TitleWarning → String
  | sanitized title ident => "title " ++ Text.quote title ++ " renamed to " ++ ident
  | duplicate ident renamed => "duplicate name " ++ ident ++ " renamed to " ++ renamed

namespace Title

def isCapital (c : Char) : Bool := 'A' ≤ c && c ≤ 'Z'

def isDigit (c : Char) : Bool := '0' ≤ c && c ≤ '9'

def symbolChar (c : Char) : Char :=
  if isCapital c || isDigit c || c = '_' then c else '_'

/-- A leading digit gets an underscore before it, and no title at all gets a name. -/
def guardStart : List Char → List Char
  | [] => "UNTITLED".toList
  | c :: cs => if isDigit c then '_' :: c :: cs else c :: cs

def sanitize (title : String) : String :=
  String.ofList (guardStart ((Text.upperCase title).toList.map symbolChar))

def withUnderscores (name : String) (n : Nat) : String :=
  name ++ String.ofList (List.replicate n '_')

/-- The name with the fewest underscores that make it none of the taken names. One more candidate
than there are names is enough. -/
def firstFree (taken : List String) (name : String) : String :=
  let free (n : Nat) : Bool := !taken.contains (withUnderscores name n)
  withUnderscores name (((List.range (taken.length + 1)).find? free).getD 0)

/-- The symbol for a title, given those handed out before, and the changes that were made. -/
def assign (taken : List String) (title : String) (index : Nat) : String × List TitleWarning :=
  let ident := sanitize title
  let sanitized : List TitleWarning :=
    if ident = Text.upperCase title then [] else [.sanitized title ident]
  if taken.contains ident then
    let renamed := firstFree taken (ident ++ "_" ++ Text.decimal index)
    (renamed, sanitized ++ [.duplicate ident renamed])
  else (ident, sanitized)

end Title

end TuneBank
