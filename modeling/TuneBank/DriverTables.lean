/-! The two lookup tables that the playback driver shares: timer periods of the notes and the
scaling of one volume by another. Both are functions of their index.

A period is the clock over sixteen times the frequency of the note, less one half, cut to a
whole number. Frequencies are twelfth roots of two, so the comparison `n + 1/2 ≤ clock / (16 f)`
is made exactly after raising it to the twelfth power. -/

namespace TuneBank.DriverTables

def clock : Nat := 1789772

def periodBits : List Nat := [1024, 512, 256, 128, 64, 32, 16, 8, 4, 2, 1]

def tuningLength : Nat := 96

def concertIndex : Nat := 45

/-- Past this index a note is too high for any period. -/
def silentIndex : Nat := 256

/-- The period `n` is not too long for the note `i` semitones above C-0. -/
def fits (i n : Nat) : Bool :=
  n = 0 || (i < silentIndex &&
    (2 * n + 1).pow 12 * Nat.pow (16 * 440) 12 * Nat.pow 2 i
      ≤ (2 * clock).pow 12 * Nat.pow 2 concertIndex)

/-- The longest period of the timer that is not too long, built from its highest bit down. -/
def period (i : Nat) : Nat :=
  periodBits.foldl (fun n bit => if fits i (n + bit) then n + bit else n) 0

def tuning : List Nat := (List.range tuningLength).map period

def volumeMax : Nat := 15

/-- One volume scaled by another. The quotient is rounded down, but two audible volumes never
make silence. -/
def scale (a b : UInt8) : UInt8 :=
  let product := a.toNat * b.toNat / volumeMax
  if product = 0 ∧ a ≠ 0 ∧ b ≠ 0 then 1 else UInt8.ofNat product

def scaling : List UInt8 :=
  (List.range 16).flatMap fun a =>
    (List.range 16).map fun b => scale (UInt8.ofNat a) (UInt8.ofNat b)

end TuneBank.DriverTables
