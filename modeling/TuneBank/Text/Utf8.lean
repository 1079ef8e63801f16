/-! Bytes as text. Reading takes one byte after another; bytes that no further byte can complete
to a character are one ill-formed part, and a text is sound if it has no such part. -/

namespace TuneBank.Text.Utf8

inductive State where
  | start
  | within (missing : Nat) (low high : UInt8) (bits : Nat)

/-- A byte that begins a character. The ranges leave out longer forms of short characters,
surrogates and numbers beyond the last character. -/
def lead (b : UInt8) : State × List (Option Char) :=
  if b ≤ 0x7F then (.start, [some (Char.ofNat b.toNat)])
  else if 0xC2 ≤ b ∧ b ≤ 0xDF then (.within 1 0x80 0xBF (b.toNat - 0xC0), [])
  else if b = 0xE0 then (.within 2 0xA0 0xBF 0, [])
  else if b = 0xED then (.within 2 0x80 0x9F 0xD, [])
  else if 0xE1 ≤ b ∧ b ≤ 0xEF then (.within 2 0x80 0xBF (b.toNat - 0xE0), [])
  else if b = 0xF0 then (.within 3 0x90 0xBF 0, [])
  else if 0xF1 ≤ b ∧ b ≤ 0xF3 then (.within 3 0x80 0xBF (b.toNat - 0xF0), [])
  else if b = 0xF4 then (.within 3 0x80 0x8F 4, [])
  else (.start, [none])

/-- Take one byte. A byte out of range ends an ill-formed part and begins anew. -/
def feed : State → UInt8 → State × List (Option Char)
  | .start, b => lead b
  | .within missing low high bits, b =>
    if low ≤ b ∧ b ≤ high then
      let bits := 64 * bits + (b.toNat - 0x80)
      if missing ≤ 1 then (.start, [some (Char.ofNat bits)])
      else (.within (missing - 1) 0x80 0xBF bits, [])
    else
      let (s, out) := lead b
      (s, none :: out)

def readFrom (s : State) : List UInt8 → List (Option Char)
  | [] =>
    match s with
    | .start => []
    | .within .. => [none]
  | b :: bs =>
    let (s, out) := feed s b
    out ++ readFrom s bs

def read (bytes : List UInt8) : List (Option Char) := readFrom .start bytes

def text? (bytes : List UInt8) : Option String := ((read bytes).mapM id).map String.ofList

def repaired (bytes : List UInt8) : String :=
  String.ofList ((read bytes).map (·.getD '\ufffd'))

end TuneBank.Text.Utf8
