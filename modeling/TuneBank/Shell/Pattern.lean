/-! Patterns of a shell, for names of files and for texts. -/

namespace TuneBank.Shell

structure Letter where
  char : Char
  quoted : Bool
  deriving DecidableEq

inductive PatternItem where
  | one (c : Char)
  | any
  | run
  | set (negated : Bool) (ranges : List (Char × Char))
  deriving DecidableEq

def PatternItem.accepts (c : Char) : PatternItem → Bool
  | .one d => c = d
  | .any => true
  | .run => false
  | .set negated ranges => ranges.any (fun (a, b) => a ≤ c && c ≤ b) ≠ negated

abbrev Pattern := List PatternItem

namespace Pattern

/-- The ranges of a set up to its bracket, with what follows it. A bracket that comes first is a
character of the set. -/
def ranges? (first : Bool) : List Letter → Option (List (Char × Char) × List Letter)
  | [] => none
  | a :: ⟨'-', false⟩ :: b :: r =>
    if a = ⟨']', false⟩ && !first then some ([], ⟨'-', false⟩ :: b :: r)
    else if b = ⟨']', false⟩ then
      (ranges? false (b :: r)).map fun (set, rest) => ((a.char, a.char) :: ('-', '-') :: set, rest)
    else (ranges? false r).map fun (set, rest) => ((a.char, b.char) :: set, rest)
  | a :: r =>
    if a = ⟨']', false⟩ && !first then some ([], r)
    else (ranges? false r).map fun (set, rest) => ((a.char, a.char) :: set, rest)

def set? (ls : List Letter) : Option (PatternItem × List Letter) :=
  match ls with
  | ⟨'!', false⟩ :: r => (ranges? true r).map fun (set, rest) => (.set true set, rest)
  | ⟨'^', false⟩ :: r => (ranges? true r).map fun (set, rest) => (.set true set, rest)
  | r => (ranges? true r).map fun (set, rest) => (.set false set, rest)

def ofLettersIn : Nat → List Letter → Pattern
  | 0, _ => []
  | _, [] => []
  | n + 1, l :: r =>
    if l.quoted then .one l.char :: ofLettersIn n r
    else if l.char = '?' then .any :: ofLettersIn n r
    else if l.char = '*' then .run :: ofLettersIn n r
    else if l.char = '[' then
      match set? r with
      | some (item, rest) => item :: ofLettersIn n rest
      | none => .one '[' :: ofLettersIn n r
    else .one l.char :: ofLettersIn n r

def ofLetters (ls : List Letter) : Pattern := ofLettersIn ls.length ls

/-- Whether a word has to be taken as a pattern at all. -/
def isMeant (ls : List Letter) : Bool :=
  ls.any fun l => !l.quoted && (l.char = '*' || l.char = '?' || l.char = '[')

def accepts : Pattern → List Char → Bool
  | [], cs => cs.isEmpty
  | .run :: p, cs => (List.range (cs.length + 1)).any fun n => accepts p (cs.drop n)
  | item :: p, c :: cs => item.accepts c && accepts p cs
  | _ :: _, [] => false

def trimStart (p : Pattern) (longest : Bool) (cs : List Char) : List Char :=
  let cuts := (List.range (cs.length + 1)).filter fun n => p.accepts (cs.take n)
  match if longest then cuts.getLast? else cuts.head? with
  | some n => cs.drop n
  | none => cs

def trimEnd (p : Pattern) (longest : Bool) (cs : List Char) : List Char :=
  let cuts := (List.range (cs.length + 1)).filter fun n => p.accepts (cs.drop n)
  match if longest then cuts.head? else cuts.getLast? with
  | some n => cs.take n
  | none => cs

end Pattern

end TuneBank.Shell
