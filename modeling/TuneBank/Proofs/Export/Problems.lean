import TuneBank.Proofs.Export.Invariant

/-! The problems that an import reports, line by line. What a line brings depends on the track only
through its pattern length, and every problem but those of the whole file names its line. -/

namespace TuneBank

theorem Track.WellFormed.slotRows_ensureSlot {t : Track} (h : t.WellFormed) (slot : UInt8) :
    (t.ensureSlot slot).slotRows slot = t.patternLength := by
  have inside : slot.toNat < (t.ensureSlot slot).patterns.length := by
    simp only [Track.ensureSlot, List.length_append, List.length_replicate]
    omega
  have own := (h.ensureSlot slot).rows _ (List.getElem_mem inside)
  rw [Track.slotRows, Track.pattern?, List.getElem?_eq_getElem inside]
  exact own

namespace Export

namespace ImportError

def line? : ImportError → Option Nat
  | macroRelease line _ _ | macroMode line _ _ | macroLoop line _ _ _ | macroLength line _ _ _
  | macroMarker line _ _ | tempo line _ | malformed line _ | unknownNote line _ _
  | rowOutOfRange line _ _ => some line
  | missingTitle | trackNotFound _ => none

/-- The problem made the import drop a line of data. -/
def isDrop : ImportError → Bool
  | malformed _ record => record ∈ [.title, .macroDef, .instrument, .order, .row]
  | macroMarker _ _ _ | rowOutOfRange _ _ _ => true
  | _ => false

/-- The problem is on none of these lines. -/
def isElsewhere (dropped : Nat → Bool) (e : ImportError) : Bool :=
  e.line?.all (!dropped ·)

theorem filter_isElsewhere {errors : List ImportError} {line : Nat}
    (own : ∀ e ∈ errors, e.line? = some line) (dropped : Nat → Bool) :
    errors.filter (isElsewhere dropped) = if dropped line then [] else errors := by
  split_ifs with drop
  · exact List.filter_eq_nil_iff.mpr fun e member => by simp [isElsewhere, own e member, drop]
  · exact List.filter_eq_self.mpr fun e member => by simp [isElsewhere, own e member, drop]

end ImportError

def droppedLines (errors : List ImportError) : List Nat :=
  (errors.filter ImportError.isDrop).filterMap ImportError.line?

theorem droppedLines_append (first second : List ImportError) :
    droppedLines (first ++ second) = droppedLines first ++ droppedLines second := by
  simp only [droppedLines, List.filter_append, List.filterMap_append]

theorem mem_droppedLines {errors : List ImportError} {line : Nat} :
    line ∈ droppedLines errors ↔ ∃ e ∈ errors, e.isDrop ∧ e.line? = some line := by
  simp [droppedLines, and_assoc]

theorem MacroRecord.line?_of_mem_errors (line : Nat) (m : MacroRecord) :
    ∀ e ∈ m.errors line, e.line? = some line := by
  unfold errors
  split_ifs <;> simp [ImportError.line?]

theorem MacroRecord.holdsMarker_of_drop {m : MacroRecord} {line : Nat}
    (drop : (m.errors line).any ImportError.isDrop) : m.holdsMarker := by
  unfold errors at drop
  by_cases marked : m.holdsMarker
  · exact marked
  · rw [if_neg marked] at drop
    split_ifs at drop <;> simp [ImportError.isDrop] at drop

namespace Record

/-- The problems of a record, where it is the `header`th track header if it is one, and patterns are
`rows` long. -/
def problems (wanted header rows line : Nat) : Record → List ImportError
  | macroDef m => m.errors line
  | trackHeader _ _ tempo _ =>
    if header = wanted ∧ tempo ≠ Track.requiredTempo then [.tempo line tempo] else []
  | row number _ unknownNotes =>
    unknownNotes.map (fun (c, text) => .unknownNote line c text)
      ++ if number < rows then [] else [.rowOutOfRange line number rows]
  | title _ | instrument _ _ | order _ _ | patternSelect _ => []

theorem line?_of_mem_problems {wanted header rows line : Nat} (r : Record) :
    ∀ e ∈ r.problems wanted header rows line, e.line? = some line := by
  cases r with
  | macroDef m => exact m.line?_of_mem_errors line
  | trackHeader patternLength speed tempo name =>
    rw [problems]
    split_ifs <;> simp [ImportError.line?]
  | row number cells unknownNotes =>
    rw [problems, List.forall_mem_append, List.forall_mem_map]
    refine ⟨fun _ _ => rfl, ?_⟩
    split_ifs <;> simp [ImportError.line?]
  | _ => exact fun _ none => absurd none List.not_mem_nil

end Record

namespace Import

/-- The problems that a line brings, if patterns have the length of the track. -/
def problems (wanted : Nat) (s : Import) (line : Nat) (text : String) : List ImportError :=
  match decode text with
  | .ignored => []
  | .malformed kind => if s.passesOver wanted kind then [] else [.malformed line kind]
  | .record r =>
    if s.passesOver wanted r.kind then []
    else r.problems wanted (s.tracksSeen + 1) s.track.patternLength line

variable {wanted : Nat} {s : Import}

theorem line?_of_mem_problems (s : Import) (line : Nat) (text : String) :
    ∀ e ∈ s.problems wanted line text, e.line? = some line := by
  unfold problems
  split
  · exact fun _ none => absurd none List.not_mem_nil
  · split_ifs <;> simp [ImportError.line?]
  · split_ifs
    · exact fun _ none => absurd none List.not_mem_nil
    · exact Record.line?_of_mem_problems _

theorem errors_apply (h : s.WellFormed wanted) (line : Nat) (r : Record) :
    (s.apply wanted line r).errors
      = s.errors ++ r.problems wanted (s.tracksSeen + 1) s.track.patternLength line := by
  cases r with
  | macroDef m =>
    rw [Import.apply, readMacro]
    split <;> rfl
  | trackHeader patternLength speed tempo name =>
    simp only [Import.apply, readTrackHeader, Record.problems]
    split_ifs <;> simp_all
  | row number cells unknownNotes =>
    simp only [Import.apply, readRow, Record.problems, report, h.track.slotRows_ensureSlot]
    split_ifs <;> simp
  | _ => exact (List.append_nil _).symm

theorem errors_readLine (h : s.WellFormed wanted) (line : Nat) (text : String) :
    (s.readLine wanted line text).errors = s.errors ++ s.problems wanted line text := by
  rw [readLine, problems]
  cases decode text with
  | ignored => exact (List.append_nil _).symm
  | malformed kind =>
    dsimp only
    split_ifs
    · exact (List.append_nil _).symm
    · rfl
  | record r =>
    dsimp only
    split_ifs
    · exact (List.append_nil _).symm
    · exact errors_apply h line r

def allProblems (wanted : Nat) (s : Import) : Nat → List String → List ImportError
  | _, [] => []
  | n, text :: rest =>
    s.problems wanted n text ++ (s.readLine wanted n text).allProblems wanted (n + 1) rest

theorem errors_readLines (h : s.WellFormed wanted) (n : Nat) {texts : List String}
    (oneLine : ∀ text ∈ texts, '\n' ∉ text.toList) :
    (s.readLines wanted n texts).errors = s.errors ++ s.allProblems wanted n texts := by
  induction texts generalizing s n with
  | nil => exact (List.append_nil _).symm
  | cons text rest ih =>
    obtain ⟨first, later⟩ := List.forall_mem_cons.mp oneLine
    rw [readLines, ih (h.readLine n first) (n + 1) later, errors_readLine h, List.append_assoc,
      allProblems]

theorem line_of_mem_allProblems (s : Import) (n : Nat) (texts : List String) :
    ∀ e ∈ s.allProblems wanted n texts, ∃ line ≥ n, e.line? = some line := by
  induction texts generalizing s n with
  | nil => exact fun _ none => absurd none List.not_mem_nil
  | cons text rest ih =>
    rw [allProblems, List.forall_mem_append]
    refine ⟨fun e own => ⟨n, Nat.le_refl n, line?_of_mem_problems s n text e own⟩, fun e later => ?_⟩
    obtain ⟨line, below, on⟩ := ih _ _ e later
    exact ⟨line, Nat.le_of_succ_le below, on⟩

/-- What an import reports at the end of the file. -/
def closing (wanted : Nat) (s : Import) : List ImportError :=
  (if s.titled then [] else [.missingTitle])
    ++ (if s.tracksSeen < wanted then [.trackNotFound wanted] else [])

theorem errors_finish (wanted : Nat) (s : Import) :
    (s.finish wanted).errors = s.errors ++ s.closing wanted :=
  List.append_assoc _ _ _

theorem line?_of_mem_closing (wanted : Nat) (s : Import) :
    ∀ e ∈ s.closing wanted, e.isDrop = false ∧ e.line? = none := by
  unfold closing
  split_ifs <;> simp [ImportError.isDrop, ImportError.line?]

theorem droppedLines_closing (wanted : Nat) (s : Import) : droppedLines (s.closing wanted) = [] := by
  have none : (s.closing wanted).filter ImportError.isDrop = [] :=
    List.filter_eq_nil_iff.mpr fun e member => by simp [(s.line?_of_mem_closing wanted e member).1]
  rw [droppedLines, none, List.filterMap_nil]

theorem filter_closing (wanted : Nat) (s : Import) (dropped : Nat → Bool) :
    (s.closing wanted).filter (ImportError.isElsewhere dropped) = s.closing wanted :=
  List.filter_eq_self.mpr fun e member => by
    rw [ImportError.isElsewhere, (s.line?_of_mem_closing wanted e member).2, Option.all_none]

end Import

theorem errors_load (text : String) (wanted : Nat) :
    (load text wanted).errors = Import.start.allProblems wanted 1 (Text.lines text)
      ++ (Import.start.readLines wanted 1 (Text.lines text)).closing wanted := by
  rw [load, Import.errors_finish, Import.errors_readLines Import.wellFormed_start 1
    fun _ => Text.noNewline_of_mem_lines]
  rfl

end Export

end TuneBank
