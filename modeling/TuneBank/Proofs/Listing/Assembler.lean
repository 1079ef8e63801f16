import TuneBank.Listing.Line
import TuneBank.Proofs.Text.Fields

/-! Listings as an assembler takes them. A comment is dropped, and what is left of a line defines a
constant or a label or gives data; the data of a listing belong to the label above them. Every line
that a listing prints comes back as it was meant. -/

namespace TuneBank.Listing

open Text (isBlank fieldsFrom)

inductive Statement where
  | nothing
  | constant (name value : String)
  | label (name : String)
  | data (operands : List String)
  deriving DecidableEq

def labelled? (field : String) : Option String :=
  match field.toList.reverse with
  | ':' :: name => some (String.ofList name.reverse)
  | _ => none

/-- What a line says. All directives but the one for data are passed over. -/
def statement? (line : String) : Option Statement :=
  match fieldsFrom [] (line.toList.takeWhile (· ≠ ';')) with
  | [] => some .nothing
  | first :: rest =>
    if first = ".byte" then
      some (.data ((Text.splitAtMark ',' (rest.flatMap String.toList)).map String.ofList))
    else if first.toList.head? = some '.' then some .nothing
    else
      match rest with
      | [] => (labelled? first).map .label
      | [sign, value] => if sign = "=" then some (.constant first value) else none
      | _ => none

inductive Datum where
  | number (value : Int)
  | low (label : String)
  | high (label : String)
  deriving DecidableEq

/-- A number, or a constant by its name. -/
def number? (defs : List (String × Int)) (operand : String) : Option Int :=
  match operand.toList with
  | '$' :: digits => (Text.Base.hex.digits? digits).map Int.ofNat
  | '-' :: digits => (Text.Base.decimal.digits? digits).map fun n => -Int.ofNat n
  | digits =>
    match Text.Base.decimal.digits? digits with
    | some n => some (Int.ofNat n)
    | none => defs.lookup operand

def datum? (defs : List (String × Int)) (operand : String) : Option Datum :=
  match operand.toList with
  | '<' :: label => some (.low (String.ofList label))
  | '>' :: label => some (.high (String.ofList label))
  | _ => (number? defs operand).map .number

structure Block where
  label : String
  data : List Datum
  deriving DecidableEq

/-- The data before any label, and the blocks. -/
def blocks? (defs : List (String × Int)) :
    List Statement → Option (List Datum × List Block)
  | [] => some ([], [])
  | .nothing :: rest | .constant _ _ :: rest => blocks? defs rest
  | .label name :: rest => do
    let (lead, blocks) ← blocks? defs rest
    return ([], ⟨name, lead⟩ :: blocks)
  | .data operands :: rest => do
    let data ← operands.mapM (datum? defs)
    let (lead, blocks) ← blocks? defs rest
    return (data ++ lead, blocks)

def Statement.constant? : Statement → Option (String × String)
  | constant name value => some (name, value)
  | _ => none

/-- The constants of a listing, none of them defined twice. -/
def constants? (statements : List Statement) : Option (List (String × Int)) := do
  let defs ← (statements.filterMap Statement.constant?).mapM fun (name, value) =>
    (number? [] value).map (name, ·)
  if (defs.map Prod.fst).Nodup then return defs else none

/-- The blocks of a listing, which starts with a label. -/
def assemble? (text : String) : Option (List Block) := do
  let statements ← (Text.lines text).mapM statement?
  let defs ← constants? statements
  match ← blocks? defs statements with
  | ([], blocks) => return blocks
  | _ => none

/-! Lines -/

def isAtomChar (c : Char) : Bool := !isBlank c && c ∉ ['.', ',', ';', '"']

def Atom (s : String) : Prop := s.toList ≠ [] ∧ ∀ c ∈ s.toList, isAtomChar c

instance (s : String) : Decidable (Atom s) :=
  decidable_of_iff (s.toList ≠ [] ∧ s.toList.all isAtomChar = true) (by simp [Atom])

theorem Atom.append {s t : String} (hs : Atom s) (ht : Atom t) : Atom (s ++ t) := by
  refine ⟨by simp [hs.1], fun c member => ?_⟩
  rw [String.toList_append, List.mem_append] at member
  exact member.elim (hs.2 c) (ht.2 c)

theorem Atom.word {s : String} (h : Atom s) : Text.Word s := by
  refine ⟨h.1, fun c member => ?_, fun quote => absurd (h.2 _ quote) (by decide)⟩
  have atom := h.2 c member
  simp_all [isAtomChar]

theorem Atom.not_mem {s : String} (h : Atom s) {c : Char} (other : isAtomChar c = false) :
    c ∉ s.toList :=
  fun member => by simp [h.2 c member] at other

theorem Atom.head?_ne {s : String} (h : Atom s) (rest : List Char) :
    (s.toList ++ rest).head? ≠ some '.' := by
  obtain ⟨c, cs, chars⟩ := List.exists_cons_of_ne_nil h.1
  have own : '.' ∉ s.toList := h.not_mem (by decide)
  rw [chars, List.mem_cons, not_or] at own
  simpa [chars] using Ne.symm own.1

namespace Line

def statement : Line → Statement
  | blank | comment _ | directive _ => .nothing
  | constant name value => .constant name value
  | label name _ => .label name
  | data operands _ => .data operands

/-- The line is one line, and what it names can be told from the rest. -/
def Readable : Line → Prop
  | blank => True
  | comment text => '\n' ∉ text.toList
  | constant name value => Atom name ∧ Atom value
  | directive text => '\n' ∉ text.toList ∧ statement? text = some .nothing
  | label name note => Atom name ∧ ∀ text ∈ note, '\n' ∉ text.toList
  | data operands note =>
    operands ≠ [] ∧ (∀ o ∈ operands, Atom o) ∧ ∀ text ∈ note, '\n' ∉ text.toList

theorem takeWhile_noteText {code : String} (plain : ';' ∉ code.toList) (note : Option String) :
    fieldsFrom [] ((code ++ noteText note).toList.takeWhile (· ≠ ';'))
      = fieldsFrom [] code.toList := by
  have all : ∀ c ∈ code.toList, decide (c ≠ ';') = true :=
    fun c member => decide_eq_true fun same => plain (same ▸ member)
  rw [String.toList_append, List.takeWhile_append_of_pos all]
  cases note with
  | none => simp [noteText]
  | some text =>
    have gap := Text.fieldsFrom_append_blank (c := ' ') (by decide) [] code.toList []
    simpa [noteText, fieldsFrom] using gap

theorem mem_intercalate {operands : List String} (atoms : ∀ o ∈ operands, Atom o) {c : Char}
    (member : c ∈ (", ".intercalate operands).toList) : c = ',' ∨ c = ' ' ∨ isAtomChar c := by
  induction operands with
  | nil => exact absurd member List.not_mem_nil
  | cons first rest ih =>
    obtain ⟨atom, later⟩ := List.forall_mem_cons.mp atoms
    cases rest with
    | nil =>
      rw [String.intercalate_singleton] at member
      exact .inr (.inr (atom.2 c member))
    | cons second rest =>
      rw [String.intercalate_cons_cons] at member
      simp only [String.toList_append, List.mem_append] at member
      obtain (own | between) | rest := member
      · exact .inr (.inr (atom.2 c own))
      · simpa [or_assoc] using Or.inl between
      · exact ih later rest

theorem splitAtMark_intercalate {operands : List String} (some : operands ≠ [])
    (atoms : ∀ o ∈ operands, Atom o) :
    Text.splitAtMark ',' ((", ".intercalate operands).toList.filter (!isBlank ·))
      = operands.map String.toList := by
  have kept {o : String} (h : Atom o) : o.toList.filter (!isBlank ·) = o.toList :=
    List.filter_eq_self.mpr fun c member => by simp [h.word.solid c member]
  induction operands with
  | nil => exact absurd rfl some
  | cons first rest ih =>
    obtain ⟨atom, later⟩ := List.forall_mem_cons.mp atoms
    have whole : ',' ∉ first.toList := atom.not_mem (by decide)
    cases rest with
    | nil => rw [String.intercalate_singleton, kept atom, Text.splitAtMark_of_free whole]; rfl
    | cons second rest =>
      have gap : (", ".toList.filter (!isBlank ·)) = [','] := by decide
      rw [String.intercalate_cons_cons, String.toList_append, String.toList_append,
        List.filter_append, List.filter_append, kept atom, gap, List.append_assoc,
        List.singleton_append, Text.splitAtMark_append whole, ih (List.cons_ne_nil _ _) later]
      rfl

theorem statement?_constant {name value : String} (hn : Atom name) (hv : Atom value) :
    statement? (constant name value).text = some (.constant name value) := by
  have gap : Text.Gap [' '] := ⟨List.cons_ne_nil _ _, List.forall_mem_singleton.mpr rfl, by decide⟩
  have spaced : Text.Spaced [name, "=", value] (name ++ " = " ++ value).toList := by
    have parts := Text.Spaced.cons name gap (.cons "=" gap (.last value))
    simpa using parts
  have words : ∀ f ∈ [name, "=", value], Text.Word f := by
    simp [hn.word, hv.word, (by decide : Atom "=").word]
  have plain : ';' ∉ (name ++ " = " ++ value).toList := by
    simp [hn.not_mem (by decide : isAtomChar ';' = false),
      hv.not_mem (by decide : isAtomChar ';' = false)]
  have code := takeWhile_noteText plain none
  rw [noteText, String.append_empty, spaced.fieldsFrom words] at code
  have start := hn.head?_ne []
  rw [List.append_nil] at start
  have notData : name ≠ ".byte" := fun same => start (by rw [same]; decide)
  rw [statement?, text, code]
  simp [notData, start]

theorem statement?_label {name : String} (h : Atom name) (note : Option String) :
    statement? (label name note).text = some (.label name) := by
  have solid : ∀ c ∈ (name ++ ":").toList, isBlank c = false := by
    intro c member
    rw [String.toList_append, List.mem_append] at member
    rcases member with own | colon
    · exact h.word.solid c own
    · obtain rfl := List.mem_singleton.mp colon
      decide
  have plain : ';' ∉ (name ++ ":").toList := by
    simp [h.not_mem (by decide : isAtomChar ';' = false)]
  have code := takeWhile_noteText plain note
  rw [Text.fieldsFrom_solid [] _ solid, if_neg (by simp), List.reverse_nil, List.nil_append,
    String.ofList_toList] at code
  have start := h.head?_ne [':']
  have notData : name ++ ":" ≠ ".byte" := by
    intro same
    apply start
    have chars := congrArg String.toList same
    rw [String.toList_append] at chars
    exact congrArg List.head? chars
  rw [statement?, text, code]
  simp [notData, labelled?, -List.head?_append, start]

theorem statement?_data {operands : List String} (some : operands ≠ [])
    (atoms : ∀ o ∈ operands, Atom o) (note : Option String) :
    statement? (data operands note).text = Option.some (.data operands) := by
  have plain : ';' ∉ (".byte " ++ ", ".intercalate operands).toList := by
    rw [String.toList_append, List.mem_append, not_or]
    refine ⟨by decide, fun member => ?_⟩
    have cases := mem_intercalate atoms member
    revert cases
    decide
  have cut := Text.fieldsFrom_append_blank (c := ' ') (by decide) [] ".byte".toList
    (", ".intercalate operands).toList
  have code := takeWhile_noteText plain note
  have chars : (".byte " ++ ", ".intercalate operands).toList
      = ".byte".toList ++ ' ' :: (", ".intercalate operands).toList := by simp
  have first : fieldsFrom [] ".byte".toList = [".byte"] := by decide
  rw [chars, cut, first, List.singleton_append] at code
  rw [statement?, text, code]
  simp only [if_true, Text.flatMap_fieldsFrom, List.reverse_nil, List.nil_append,
    splitAtMark_intercalate some atoms, List.map_map]
  simp [Function.comp_def]

theorem statement?_text {l : Line} (h : l.Readable) : statement? l.text = some l.statement := by
  cases l with
  | blank => rfl
  | comment text =>
    have none : (comment text).text.toList.takeWhile (· ≠ ';') = [] := by simp [Line.text]
    rw [statement?, none]
    rfl
  | constant name value => exact statement?_constant h.1 h.2
  | directive text => exact h.2
  | label name note => exact statement?_label h.1 note
  | data operands note => exact statement?_data h.1 h.2.1 note

theorem noNewline_text {l : Line} (h : l.Readable) : '\n' ∉ l.text.toList := by
  have atom {s : String} (h : Atom s) : '\n' ∉ s.toList := h.not_mem (by decide)
  have noted {note : Option String} (h : ∀ text ∈ note, '\n' ∉ text.toList) :
      '\n' ∉ (noteText note).toList := by
    cases note with
    | none => decide
    | some text => simp [noteText, h text rfl]
  cases l with
  | blank => decide
  | comment note =>
    have own : '\n' ∉ note.toList := h
    simp [text, own]
  | constant name value => simp [text, atom h.1, atom h.2]
  | directive text => exact h.1
  | label name note => simp [text, atom h.1, noted h.2]
  | data operands note =>
    have all : '\n' ∉ (", ".intercalate operands).toList := by
      intro member
      have cases := mem_intercalate h.2.1 member
      revert cases
      decide
    simp [text, all, noted h.2.2, -String.toList_intercalate]

end Line

theorem statement?_closeLine (cs : List Char) :
    statement? (Text.closeLine cs.reverse) = statement? (String.ofList cs) := by
  rw [Text.closeLine.eq_def]
  split
  · rename_i rest reversed
    have last : cs = rest.reverse ++ ['\r'] := by
      rw [← List.reverse_reverse cs, reversed, List.reverse_cons]
    have gap := Text.fieldsFrom_append_blank (c := '\r') (by decide) [] rest.reverse []
    have same : fieldsFrom [] ((rest.reverse ++ ['\r']).takeWhile (· ≠ ';'))
        = fieldsFrom [] (rest.reverse.takeWhile (· ≠ ';')) := by
      rw [List.takeWhile_append]
      split
      · rename_i whole
        rw [(List.takeWhile_sublist _).eq_of_length whole]
        simpa [fieldsFrom] using gap
      · rfl
    rw [last]
    simp only [statement?, String.toList_ofList, same]
  · rw [List.reverse_reverse]

theorem mapM_eq_map {α β : Type} {f : α → Option β} {g : α → β} {as : List α}
    (h : ∀ a ∈ as, f a = some (g a)) : as.mapM f = some (as.map g) := by
  induction as with
  | nil => rfl
  | cons a as ih =>
    obtain ⟨first, later⟩ := List.forall_mem_cons.mp h
    simp [first, ih later]

theorem mapM_statement?_text {ls : List Line} (h : ∀ l ∈ ls, l.Readable) :
    (Text.lines (text ls)).mapM statement? = some (ls.map Line.statement) := by
  have whole : ∀ l ∈ ls.map Line.text, '\n' ∉ l.toList :=
    List.forall_mem_map.mpr fun l member => Line.noNewline_text (h l member)
  rw [text, Text.lines_unlines_eq whole, List.mapM_map, List.mapM_map]
  refine mapM_eq_map fun l member => ?_
  have closed := statement?_closeLine l.text.toList
  rwa [String.ofList_toList, Line.statement?_text (h l member)] at closed

theorem assemble?_text {ls : List Line} (h : ∀ l ∈ ls, l.Readable)
    {defs : List (String × Int)} {blocks : List Block}
    (defined : constants? (ls.map Line.statement) = some defs)
    (laid : blocks? defs (ls.map Line.statement) = some ([], blocks)) :
    assemble? (text ls) = some blocks := by
  simp [assemble?, mapM_statement?_text h, defined, laid]

end TuneBank.Listing
