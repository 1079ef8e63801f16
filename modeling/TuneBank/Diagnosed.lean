/-! A value that is always usable, with everything that went wrong on the way to it, in the order
in which it was found. -/

namespace TuneBank

structure Diagnosed (ε α : Type) where
  value : α
  errors : List ε

namespace Diagnosed
variable {ε α β : Type}

def new (a : α) : Diagnosed ε α := ⟨a, []⟩

def report (d : Diagnosed ε α) (e : ε) : Diagnosed ε α := ⟨d.value, d.errors ++ [e]⟩

def reportAll (d : Diagnosed ε α) (es : List ε) : Diagnosed ε α := ⟨d.value, d.errors ++ es⟩

def isClean (d : Diagnosed ε α) : Bool := d.errors.isEmpty

def map (f : α → β) (d : Diagnosed ε α) : Diagnosed ε β := ⟨f d.value, d.errors⟩

end Diagnosed

end TuneBank
