import TuneBank.Toml.Scalar

/-! Values and tables. How a table was begun decides what may still be added to it: a table with
a header of its own is complete, one begun by dotted keys grows by dotted keys, one that a longer
header implies may still get its own header, and an inline table never changes. -/

namespace TuneBank.Toml

inductive TableForm where
  | implied
  | dotted
  | headed
  | inline
  deriving DecidableEq

inductive Value where
  | text (s : String)
  | scalar (s : Scalar)
  | array (items : List Value)
  | table (form : TableForm) (entries : List (String × Value))
  | tables (items : List (List (String × Value)))

mutual

def Value.inRange : Value → Bool
  | .text _ => true
  | .scalar s => s.inRange
  | .array items => itemsInRange items
  | .table _ entries => entriesInRange entries
  | .tables items => tablesInRange items

def itemsInRange : List Value → Bool
  | [] => true
  | v :: vs => v.inRange && itemsInRange vs

def entriesInRange : List (String × Value) → Bool
  | [] => true
  | (_, v) :: es => v.inRange && entriesInRange es

def tablesInRange : List (List (String × Value)) → Bool
  | [] => true
  | es :: ts => entriesInRange es && tablesInRange ts

end

structure Table where
  form : TableForm
  entries : List (String × Value)

namespace Table

def empty (form : TableForm) : Table := ⟨form, []⟩

def toValue (t : Table) : Value := .table t.form t.entries

def get? (t : Table) (key : String) : Option Value := t.entries.lookup key

def put (t : Table) (key : String) (v : Value) : Table :=
  if (t.get? key).isSome then
    { t with entries := t.entries.map fun e => if e.1 = key then (key, v) else e }
  else { t with entries := t.entries ++ [(key, v)] }

/-- Change the table at the end of a path, making the tables on the way that do not exist. Dotted
keys pass through no table with a header, and nothing passes through an inline table. -/
def modifyAt (dotted : Bool) (change : Table → Option Table) :
    List String → Table → Option Table
  | [], t => change t
  | key :: path, t =>
    match t.get? key with
    | none => do
      let inner ← modifyAt dotted change path (.empty (if dotted then .dotted else .implied))
      return t.put key inner.toValue
    | some (.table form entries) =>
      if form = .inline ∨ dotted ∧ form = .headed then none
      else do
        let inner ← modifyAt dotted change path ⟨form, entries⟩
        return t.put key inner.toValue
    | some (.tables items) =>
      match items.getLast? with
      | none => none
      | some entries => do
        let inner ← modifyAt dotted change path ⟨.headed, entries⟩
        return t.put key (.tables (items.dropLast ++ [inner.entries]))
    | some _ => none

/-- Add a key that must be new. Dotted keys and plain keys do not mix in one table. -/
def insert (viaDots : Bool) (key : String) (v : Value) (t : Table) : Option Table :=
  if (t.form = .dotted) ≠ viaDots ∨ (t.get? key).isSome then none else some (t.put key v)

def openTable (key : String) (t : Table) : Option Table :=
  match t.get? key with
  | none => some (t.put key (.table .headed []))
  | some (.table .implied entries) => some (t.put key (.table .headed entries))
  | some _ => none

def openNext (key : String) (t : Table) : Option Table :=
  match t.get? key with
  | none => some (t.put key (.tables [[]]))
  | some (.tables items) => some (t.put key (.tables (items ++ [[]])))
  | some _ => none

def insertPath (t : Table) (keys : List String) (v : Value) : Option Table :=
  match keys.getLast? with
  | none => none
  | some key =>
    let path := keys.dropLast
    modifyAt true (insert (!path.isEmpty) key v) path t

end Table

end TuneBank.Toml
