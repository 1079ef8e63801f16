import TuneBank.Cell
import TuneBank.Text.Numeral

/-! The columns of one channel in a row of an export: `note instrument volume effect...`, where
`...`, `..` and `.` stand for a column that holds nothing. -/

namespace TuneBank.Export

/-- A note as the channel writes it. The noise channel writes a hexadecimal period class before
a dash, the others a semitone name before an octave. -/
def readNote? (c : Channel) (text : String) : Option Note :=
  if text = "..." then some .blank
  else if text = "---" then some .halt
  else if text = "===" then some .release
  else match text.toList with
    | [a, b, d] =>
      if c.isNoise then
        if b = '-' ∧ d.toNat < 128 then
          (Text.Base.hex.digit? a).map fun n => .noise (UInt8.ofNat n)
        else none
      else do
        let semitone ← Note.semitoneNames.idxOf? (String.ofList [a, b])
        let octave ← Text.Base.decimal.digit? d
        return .tone (UInt8.ofNat octave) (UInt8.ofNat semitone)
    | _ => none

def isAsciiLetterOrDigit (c : Char) : Bool :=
  ('0' ≤ c && c ≤ '9') || ('a' ≤ c && c ≤ 'z') || ('A' ≤ c && c ≤ 'Z')

inductive EffectColumn where
  | blank
  | effect (e : Effect)

/-- An effect is a letter or digit before a hexadecimal number of two characters. -/
def readEffect? (text : String) : Option EffectColumn :=
  if text = "..." then some .blank
  else match text.toList with
    | [a, b, c] =>
      if isAsciiLetterOrDigit a then
        (Text.Base.hex.read? [b, c]).map fun n =>
          .effect ⟨UInt8.ofNat a.toNat, UInt8.ofNat n⟩
      else none
    | _ => none

def readEffects? : List String → Option (List Effect)
  | [] => some []
  | text :: rest =>
    match readEffect? text with
    | none => none
    | some .blank => readEffects? rest
    | some (.effect e) => (readEffects? rest).map (e :: ·)

def readInstrument? (text : String) : Option (Option UInt8) :=
  if text = ".." then some none else (Text.byte? .hex text).map some

def readVolume? (text : String) : Option (Option UInt8) :=
  if text = "." then some none
  else ((Text.natural? .hex 16 text).map UInt8.ofNat).map some

/-- The columns of a channel. A note that cannot be read is left blank, and its text is kept for
the report; any other column that cannot be read makes the whole field malformed. -/
structure Columns where
  cell : Cell
  unknownNote : Option String

def readColumns? (c : Channel) : List String → Option Columns
  | note :: instrument :: volume :: effects =>
    if effects.length > Cell.maxEffects then none
    else do
      let instrument ← readInstrument? instrument
      let volume ← readVolume? volume
      let effects ← readEffects? effects
      return match readNote? c note with
        | some n => ⟨⟨n, instrument, volume, effects⟩, none⟩
        | none => ⟨⟨.blank, instrument, volume, effects⟩, some note⟩
  | _ => none

end TuneBank.Export
