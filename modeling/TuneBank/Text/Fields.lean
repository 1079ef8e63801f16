/-! Text cut into lines, and lines cut into fields. A line ends at a newline, with at most one
carriage return before it; fields are the runs between white space characters. -/

namespace TuneBank.Text

def isBlank (c : Char) : Bool :=
  let n := c.toNat
  (0x09 ≤ n && n ≤ 0x0D) || n == 0x20 || n == 0x85 || n == 0xA0 || n == 0x1680
    || (0x2000 ≤ n && n ≤ 0x200A) || n == 0x2028 || n == 0x2029 || n == 0x202F
    || n == 0x205F || n == 0x3000

/-- Fields of the rest of a line, given the field being read, last character first. -/
def fieldsFrom (field : List Char) : List Char → List String
  | [] => if field.isEmpty then [] else [String.ofList field.reverse]
  | c :: cs =>
    if isBlank c then
      if field.isEmpty then fieldsFrom [] cs
      else String.ofList field.reverse :: fieldsFrom [] cs
    else fieldsFrom (c :: field) cs

def fields (line : String) : List String :=
  fieldsFrom [] line.toList

/-- A finished line, given last character first; one carriage return at its end is dropped. -/
def closeLine : List Char → String
  | '\r' :: cs => String.ofList cs.reverse
  | cs => String.ofList cs.reverse

def linesFrom (line : List Char) : List Char → List String
  | [] => if line.isEmpty then [] else [String.ofList line.reverse]
  | c :: cs => if c = '\n' then closeLine line :: linesFrom [] cs else linesFrom (c :: line) cs

/-- The lines of a text. A last line without a newline counts if it holds anything. -/
def lines (text : String) : List String :=
  linesFrom [] text.toList

def beforeLastQuote : List Char → Option (List Char)
  | [] => none
  | c :: cs =>
    match beforeLastQuote cs with
    | some inner => some (c :: inner)
    | none => if c = '"' then some [] else none

/-- The text between the first and the last double quote of a line. -/
def quoted? (line : String) : Option String :=
  match line.toList.dropWhile (· ≠ '"') with
  | [] => none
  | _ :: cs => (beforeLastQuote cs).map String.ofList

/-- Lists cut at every element equal to the mark; always one more piece than there are marks. -/
def splitAtMark {α : Type} [DecidableEq α] (mark : α) : List α → List (List α)
  | [] => [[]]
  | a :: as =>
    match splitAtMark mark as with
    | [] => [[a]]
    | piece :: pieces => if a = mark then [] :: piece :: pieces else (a :: piece) :: pieces

def unlines (ls : List String) : String :=
  String.join (ls.map (· ++ "\n"))

end TuneBank.Text
