import TuneBank.Text.Fields
import TuneBank.Text.Numeral

/-! Lines of an assembler listing. A label or a line of data may end in a comment. -/

namespace TuneBank.Listing

inductive Line where
  | blank
  | comment (text : String)
  | constant (name value : String)
  | directive (text : String)
  | label (name : String) (note : Option String)
  | data (operands : List String) (note : Option String)
  deriving DecidableEq

def noteText : Option String → String
  | none => ""
  | some text => " ; " ++ text

def Line.text : Line → String
  | blank => ""
  | comment text => "; " ++ text
  | constant name value => name ++ " = " ++ value
  | directive text => text
  | label name note => name ++ ":" ++ noteText note
  | data operands note => ".byte " ++ ", ".intercalate operands ++ noteText note

def text (ls : List Line) : String := Text.unlines (ls.map Line.text)

def banner : Line := .comment "automatically generated by chippack"

def ending : Line := .comment "end of file"

def hexOperand (b : UInt8) : String := "$" ++ Text.hexByte b

def rowsOf (perLine : Nat) (items : List String) : List (List String) :=
  if items.isEmpty ∨ perLine = 0 then []
  else items.take perLine :: rowsOf perLine (items.drop perLine)
termination_by items.length
decreasing_by
  rename_i h
  simp only [not_or, List.isEmpty_iff] at h
  have := List.length_pos_iff.mpr h.1
  simp only [List.length_drop]
  omega

/-- Lines of at most so many operands each; none if there are no operands. -/
def wrapped (perLine : Nat) (items : List String) : List Line :=
  (rowsOf perLine items).map (.data · none)

/-- All operands on one line; no line if there are none. -/
def oneLine (items : List String) : List Line :=
  if items.isEmpty then [] else [.data items none]

def entryLabel (stem : String) (i : Nat) : String := stem ++ "_" ++ Text.hex 2 i

def pointerTables (table stem : String) (count : Nat) : List Line :=
  [("_low", "<"), ("_high", ">")].flatMap fun (part, op) =>
    .label (table ++ part) none ::
      ((List.range count).map fun i => Line.data [op ++ entryLabel stem i] none) ++ [.blank]

end TuneBank.Listing
