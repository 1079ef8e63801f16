import TuneBank.Text.Fields

/-! The problems of a run, in sections: one per source and stage, in the order in which they were
found. A stage without problems leaves no section. -/

namespace TuneBank

structure Section where
  heading : String
  source : String
  lines : List String
  deriving DecidableEq

structure Report where
  sections : List Section
  deriving DecidableEq

namespace Report

def empty : Report := ⟨[]⟩

def add (r : Report) (heading source : String) (lines : List String) : Report :=
  if lines.isEmpty then r else ⟨r.sections ++ [⟨heading, source, lines⟩]⟩

def isEmpty (r : Report) : Bool := r.sections.isEmpty

def size (r : Report) : Nat := r.sections.foldl (fun n s => n + s.lines.length) 0

def text (r : Report) : String :=
  Text.unlines (r.sections.flatMap fun s => (s.heading ++ ": " ++ s.source) :: s.lines)

end Report

end TuneBank
