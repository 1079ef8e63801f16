import TuneBank.Export.Record
import TuneBank.Text.Quoted

/-! What can be wrong with an export. Lines are numbered from one. -/

namespace TuneBank.Export

inductive ImportError where
  | macroRelease (line : Nat) (kind : MacroKind) (index : UInt8)
  | macroMode (line : Nat) (kind : MacroKind) (index : UInt8)
  | macroLoop (line : Nat) (kind : MacroKind) (index : UInt8) (loopPoint : Int)
  | macroLength (line : Nat) (kind : MacroKind) (index : UInt8) (length : Nat)
  | macroMarker (line : Nat) (kind : MacroKind) (index : UInt8)
  | tempo (line : Nat) (tempo : Nat)
  | malformed (line : Nat) (record : RecordKind)
  | unknownNote (line : Nat) (channel : Channel) (text : String)
  | rowOutOfRange (line : Nat) (row rows : Nat)
  | missingTitle
  | trackNotFound (track : Nat)
  deriving DecidableEq

namespace ImportError

def atLine (line : Nat) (text : String) : String :=
  "line " ++ Text.decimal line ++ ": " ++ text

def macroName (kind : MacroKind) (index : UInt8) : String :=
  kind.name ++ " macro " ++ Text.decimal index.toNat

def message : ImportError → String
  | macroRelease line kind index =>
    atLine line ("macro release unsupported (" ++ macroName kind index ++ ")")
  | macroMode line kind index =>
    atLine line ("only absolute macro mode supported (" ++ macroName kind index ++ ")")
  | macroLoop line kind index loopPoint =>
    atLine line ("loop point " ++ Text.signed loopPoint ++ " past the end of "
      ++ macroName kind index)
  | macroLength line kind index length =>
    atLine line (macroName kind index ++ " has " ++ Text.decimal length ++ " values, only "
      ++ Text.decimal Macro.maxLength ++ " kept")
  | macroMarker line kind index =>
    atLine line ("value -128 is reserved for the loop marker (" ++ macroName kind index ++ ")")
  | tempo line found =>
    atLine line ("only tempo " ++ Text.decimal Track.requiredTempo ++ " supported, found "
      ++ Text.decimal found)
  | malformed line record => atLine line ("malformed " ++ record.name ++ " record")
  | unknownNote line channel text =>
    atLine line ("unknown note " ++ Text.quote text ++ " in channel " ++ channel.label)
  | rowOutOfRange line row rows =>
    atLine line ("row " ++ Text.hex 2 row ++ " is past the pattern length " ++ Text.decimal rows)
  | missingTitle => "no TITLE record found"
  | trackNotFound track => "track " ++ Text.decimal track ++ " not found"

end ImportError

end TuneBank.Export
