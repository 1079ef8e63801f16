import TuneBank.Bytecode.Token

/-! Streams in which rows without tokens are folded into skips. A note ends its row; any other
row that writes tokens is left open, and the skip after it closes it. -/

namespace TuneBank.Bytecode

class Skipping (τ : Type) where
  skip : UInt8 → τ

instance : Skipping UInt8 := ⟨id⟩

instance : Skipping Token := ⟨.skip⟩

instance : Skipping SfxToken := ⟨.skip⟩

structure SkipWriter (τ : Type) where
  out : List τ
  pending : Nat

namespace SkipWriter
variable {τ : Type} [Skipping τ]

def new : SkipWriter τ := ⟨[], 0⟩

def gap (count : Nat) : τ := Skipping.skip (UInt8.ofNat (min count Code.skipMax.toNat))

def overflow? (w : SkipWriter τ) : Option Nat :=
  if w.pending > Code.skipMax.toNat then some w.pending else none

def silent (w : SkipWriter τ) (rows : Nat) : SkipWriter τ :=
  { w with pending := w.pending + rows }

/-- Write the tokens of a row after the skip that is due, which counts one less than the pending
rows. The second part is the length of a gap that was cut to fit. -/
def write (w : SkipWriter τ) (tokens : List τ) (ends : Bool) : SkipWriter τ × Option Nat :=
  let due := if w.pending = 0 then [] else [gap (w.pending - 1)]
  (⟨w.out ++ due ++ tokens, if ends then 0 else 1⟩, w.overflow?)

def finish (w : SkipWriter τ) : List τ × Option Nat :=
  (w.out ++ (if w.pending = 0 then [] else [gap w.pending]), w.overflow?)

end SkipWriter

end TuneBank.Bytecode
