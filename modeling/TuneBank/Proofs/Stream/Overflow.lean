import TuneBank.Proofs.Stream.Gaps
import TuneBank.Proofs.Stream.Grammar
import TuneBank.Proofs.Stream.Reports

/-! Gaps that are longer than a skip. The skip before a row stands for 128 rows at most and the one
at the end of a stream for 127. Whatever a gap has beyond that is missing in the stream, and its
report counts the whole gap: the rows of a pattern are those of its stream and those that its
reports show as lost. -/

namespace TuneBank

/-- The rows of a reported gap that its skip does not stand for. -/
def PackError.lostRows : PackError → Nat
  | tooManySkips _ rows => rows - 128
  | tooManySkipsAtEnd _ _ rows => rows - 127
  | _ => 0

namespace Bytecode

/-- The rows that a token accounts for. A note ends a row. A skip stands for one row more than it
counts, but as the last token for those it counts; a row left open is one of them. -/
def Token.rows (last : Bool) : Token → Nat
  | skip rows => if last then rows.toNat else rows.toNat + 1
  | halt | pitch _ => 1
  | _ => 0

/-- The rows that a stream accounts for. -/
def rowsOf : List Token → Nat
  | [] => 0
  | t :: ts => t.rows ts.isEmpty + rowsOf ts

theorem length_closeRows (r : Registers) (effects : List Effect) (n : Nat) :
    (closeRows r effects n).length = n := by
  cases n <;> simp [closeRows]

theorem length_play (r : Registers) (effects : List Effect) (ts : List Token) :
    (play r effects ts).length = rowsOf ts := by
  fun_induction play r effects ts with
  | case1 => rfl
  | case2 r effects rows => exact length_closeRows r effects rows.toNat
  | case3 r effects rows t ts ih =>
    rw [List.length_append, length_closeRows, ih]
    rfl
  | case4 _ _ _ ih => exact (congrArg (· + 1) ih).trans (Nat.add_comm _ 1)
  | case5 _ _ _ _ ih => exact (congrArg (· + 1) ih).trans (Nat.add_comm _ 1)
  | _ =>
    rename_i ih
    exact ih.trans (Nat.zero_add _).symm

theorem Token.rows_of_solid {t : Token} (solid : t.isSkip = false) (last last' : Bool) :
    t.rows last = t.rows last' := by
  cases t with
  | skip rows => exact absurd solid (by simp [isSkip])
  | _ => rfl

theorem rowsOf_append {ts us : List Token} (ended : ∀ t ∈ ts.getLast?, t.isSkip = false) :
    rowsOf (ts ++ us) = rowsOf ts + rowsOf us := by
  induction ts with
  | nil => exact (Nat.zero_add _).symm
  | cons t ts ih =>
    cases ts with
    | nil =>
      rw [List.singleton_append, rowsOf, rowsOf, Token.rows_of_solid (ended t rfl) _ true]
      rfl
    | cons u ts =>
      have later := ih (by simpa using ended)
      rw [List.cons_append, rowsOf, later, rowsOf.eq_2 t, Nat.add_assoc]
      rfl

theorem rowsOf_append_of_idle {ts us : List Token} (idle : ∀ t ∈ ts, ∀ last, t.rows last = 0) :
    rowsOf (ts ++ us) = rowsOf us := by
  induction ts with
  | nil => rfl
  | cons t ts ih =>
    rw [List.cons_append, rowsOf, idle t List.mem_cons_self, Nat.zero_add,
      ih fun u member => idle u (List.mem_cons_of_mem t member)]

theorem Token.rows_of_isCommand {t : Token} (command : t.isCommand) (last : Bool) :
    t.rows last = 0 := by
  cases t with
  | skip | halt | pitch => exact absurd command Bool.false_ne_true
  | _ => rfl

theorem rowsOf_codeCell (s : Running) (map : List UInt8) (place : Location) (cell : Cell) :
    rowsOf (s.codeCell map place cell).tokens = if endsRow place cell.note then 1 else 0 := by
  rw [tokens_codeCell, rowsOf_append_of_idle, endsRow_eq]
  · cases Sound.ofNote cell.note <;> rfl
  · exact fun t member => Token.rows_of_isCommand (isCommand_of_mem_columns member)

/-! Rows written and rows lost -/

def lostRows (errors : List PackError) : Nat := errors.foldr (fun e lost => e.lostRows + lost) 0

@[simp] theorem lostRows_append (first second : List PackError) :
    lostRows (first ++ second) = lostRows first + lostRows second := by
  induction first with
  | nil => exact (Nat.zero_add _).symm
  | cons e first ih =>
    change e.lostRows + lostRows (first ++ second) = e.lostRows + lostRows first + lostRows second
    rw [ih, Nat.add_assoc]

theorem lostRows_of_cells {errors : List PackError}
    (cells : ∀ e ∈ errors, e.isSkipOverflow = false) : lostRows errors = 0 := by
  induction errors with
  | nil => rfl
  | cons e errors ih =>
    have own : e.lostRows = 0 := by
      have column := cells e List.mem_cons_self
      cases e with
      | tooManySkips => exact nomatch column
      | tooManySkipsAtEnd => exact nomatch column
      | _ => rfl
    change e.lostRows + lostRows errors = 0
    rw [own, ih fun d member => cells d (List.mem_cons_of_mem e member)]

/-! The columns of a cell are not reported as gaps -/

theorem isSkipOverflow_of_mem_codeEffects {place : Location} {loops : Nat} {es : List Effect}
    {e : PackError} (member : e ∈ (codeEffects place loops es).errors) :
    e.isSkipOverflow = false := by
  induction es generalizing loops with
  | nil => exact absurd member List.not_mem_nil
  | cons effect es ih =>
    rw [codeEffects, Coded.errors_append, List.mem_append] at member
    rcases member with own | later
    · unfold codeEffect at own
      split_ifs at own <;> simp_all [Coded.ofToken, Coded.refused, PackError.isSkipOverflow]
    · exact ih later

theorem isSkipOverflow_of_mem_codeInstrument {s : Running} {map : List UInt8} {place : Location}
    {number : Option UInt8} {e : PackError}
    (member : e ∈ (s.codeInstrument map place number).errors) : e.isSkipOverflow = false := by
  unfold Running.codeInstrument at member
  repeat' split at member
  all_goals simp_all [Coded.nothing, Coded.ofToken, Coded.refused, PackError.isSkipOverflow]

theorem isSkipOverflow_of_mem_codeCell {s : Running} {map : List UInt8} {place : Location}
    {cell : Cell} {e : PackError} (member : e ∈ (s.codeCell map place cell).errors) :
    e.isSkipOverflow = false := by
  simp only [Running.codeCell, Coded.errors_append, errors_codeVolume, errors_codeNote,
    List.append_nil, List.mem_append] at member
  rcases member with (effect | instrument) | note
  · exact isSkipOverflow_of_mem_codeEffects effect
  · exact isSkipOverflow_of_mem_codeInstrument instrument
  · have own : e ∈ cellReports place map.length [] cell := List.mem_append_right _ note
    exact PackError.isSkipOverflow_of_cell? (cell?_of_mem_cellReports own)

namespace SkipWriter

theorem write_eq (w : SkipWriter Token) (tokens : List Token) (ends : Bool) :
    w.write tokens ends = ((w.write tokens ends).1, w.overflow?) := rfl

theorem rows_gap (count : Nat) (last : Bool) :
    (gap count : Token).rows last = min count 127 + if last then 0 else 1 := by
  have held : (UInt8.ofNat (min count 127)).toNat = min count 127 :=
    UInt8.toNat_ofNat_of_lt' (Nat.lt_of_le_of_lt (Nat.min_le_right _ _) (by decide))
  change (if last then (UInt8.ofNat (min count 127)).toNat
    else (UInt8.ofNat (min count 127)).toNat + 1) = _
  rw [held]
  cases last <;> rfl

variable {w : SkipWriter Token}

theorem lostRows_overflow (report : Nat → PackError) (limit : Nat)
    (lost : ∀ rows, (report rows).lostRows = rows - limit) (enough : 127 ≤ limit) :
    lostRows (w.overflow?.map report).toList = w.pending - limit := by
  unfold overflow?
  split_ifs with long
  · change (report w.pending).lostRows + 0 = _
    rw [lost, Nat.add_zero]
  · have short : w.pending ≤ 127 := Nat.le_of_not_lt long
    exact (Nat.sub_eq_zero_of_le (Nat.le_trans short enough)).symm

theorem Settled.rowsOf_write (h : w.Settled) {tokens : List Token} (some : tokens ≠ [])
    (ends : Bool) (own : rowsOf tokens = if ends then 1 else 0) (place : Location) :
    rowsOf (w.write tokens ends).1.out + (w.write tokens ends).1.pending
        + lostRows (w.overflow?.map (PackError.tooManySkips place)).toList
      = rowsOf w.out + w.pending + 1 := by
  rw [lostRows_overflow (.tooManySkips place) 128 (fun _ => rfl) (by decide)]
  change rowsOf (w.out ++ _ ++ tokens) + (if ends then 0 else 1) + _ = _
  rw [List.append_assoc, rowsOf_append h.ended]
  have last : (if ends then 1 else 0) + (if ends then 0 else 1) = 1 := by cases ends <;> rfl
  by_cases empty : w.pending = 0
  · rw [if_pos empty, List.nil_append, own]
    omega
  · obtain ⟨t, ts, rfl⟩ := List.exists_cons_of_ne_nil some
    rw [if_neg empty, List.singleton_append, rowsOf, own, rows_gap]
    simp only [List.isEmpty_cons, Bool.false_eq_true, if_false]
    omega

theorem Settled.rowsOf_finish (h : w.Settled) (c : Channel) (slot : UInt8) :
    rowsOf w.finish.1 + lostRows (w.overflow?.map (PackError.tooManySkipsAtEnd c slot)).toList
      = rowsOf w.out + w.pending := by
  rw [lostRows_overflow (.tooManySkipsAtEnd c slot) 127 (fun _ => rfl) (Nat.le_refl _)]
  change rowsOf (w.out ++ _) + _ = _
  rw [rowsOf_append h.ended]
  split_ifs with empty
  · rw [empty]
    rfl
  · rw [rowsOf, rows_gap]
    simp only [List.isEmpty_nil, if_true, rowsOf]
    omega

end SkipWriter

/-- No row is lost without a report: those written, those owed and those lost are all. -/
theorem rowsOf_writeCells (map : List UInt8) (c : Channel) (slot : UInt8) (cells : List Cell)
    (row : Nat) (s : Running) {w : SkipWriter Token} (settled : w.Settled) :
    rowsOf (writeCells map c slot row s w cells).1.out
        + (writeCells map c slot row s w cells).1.pending
        + lostRows (writeCells map c slot row s w cells).2
      = rowsOf w.out + w.pending + cells.length := by
  induction cells generalizing row s w with
  | nil => rfl
  | cons cell cells ih =>
    have columns : lostRows (s.codeCell map ⟨c, slot, row⟩ cell).errors = 0 :=
      lostRows_of_cells fun e => isSkipOverflow_of_mem_codeCell
    by_cases none : (s.codeCell map ⟨c, slot, row⟩ cell).tokens = []
    · have later := ih (row + 1) (s.after map cell) (w := w.silent 1)
        ⟨settled.apart, settled.ended⟩
      rw [writeCells_cons_of_silent none, lostRows_append, columns, List.length_cons]
      simp only [SkipWriter.silent] at later ⊢
      omega
    · have solid : ∀ t ∈ (s.codeCell map ⟨c, slot, row⟩ cell).tokens, t.isSkip = false :=
        fun _ => isSkip_of_mem_codeCell
      have step := settled.rowsOf_write none _ (rowsOf_codeCell s map ⟨c, slot, row⟩ cell)
        ⟨c, slot, row⟩
      have later := ih (row + 1) (s.after map cell)
        (settled.write solid none (endsRow ⟨c, slot, row⟩ cell.note))
      rw [writeCells_cons_of_tokens none (w.write_eq _ _), lostRows_append, lostRows_append,
        columns, List.length_cons]
      dsimp only
      omega

end Bytecode

/-! Reports of gaps -/

namespace Track
open Bytecode

variable (t : Track) (map : List UInt8) (c : Channel) (slot : UInt8)

def runningAbove : Nat → Running
  | 0 => .start
  | row + 1 => (runningAbove row).after map (t.cell c slot row)

def rowTokens (row : Nat) : List Token :=
  ((t.runningAbove map c slot row).codeCell map ⟨c, slot, row⟩ (t.cell c slot row)).tokens

def rowKind (row : Nat) : RowKind :=
  if t.rowTokens map c slot row = [] then .silent
  else if endsRow ⟨c, slot, row⟩ (t.cell c slot row).note then .ended
  else .begun

/-- The report of a gap before a row with tokens. -/
def cutReport? (row : Nat) : Option PackError :=
  if t.rowKind map c slot row ≠ .silent ∧ 128 ≤ owed (t.rowKind map c slot) row then
    some (.tooManySkips ⟨c, slot, row⟩ (owed (t.rowKind map c slot) row))
  else none

/-- The report of a gap: at the row that closes it, or at the end of the pattern. -/
def gapReport (first stop : Nat) : PackError :=
  if stop = t.patternLength then .tooManySkipsAtEnd c slot (stop - first)
  else .tooManySkips ⟨c, slot, stop⟩ (stop - first)

end Track

namespace Bytecode

section
variable {t : Track} {map : List UInt8} {c : Channel} {slot : UInt8}

theorem overflow?_eq {w : SkipWriter Token} {rows : Nat} (pending : w.pending = rows) :
    w.overflow? = if 128 ≤ rows then some rows else none := by
  rw [SkipWriter.overflow?, pending]
  rfl

theorem filter_gapReport_of_tokens {w : SkipWriter Token} {row : Nat}
    (pending : w.pending = owed (t.rowKind map c slot) row)
    (tokens : t.rowKind map c slot row ≠ .silent) :
    (w.overflow?.map (PackError.tooManySkips ⟨c, slot, row⟩)).toList.filter
        PackError.isSkipOverflow
      = (t.cutReport? map c slot row).toList := by
  rw [overflow?_eq pending, Track.cutReport?]
  by_cases long : 128 ≤ owed (t.rowKind map c slot) row
  · rw [if_pos long, if_pos ⟨tokens, long⟩]
    rfl
  · rw [if_neg long, if_neg fun h => long h.2]
    rfl

theorem overflow_writeCells (rows row : Nat) {w : SkipWriter Token}
    (pending : w.pending = owed (t.rowKind map c slot) row) :
    (writeCells map c slot row (t.runningAbove map c slot row) w
          ((List.range' row rows).map (t.cell c slot))).2.filter PackError.isSkipOverflow
        = (List.range' row rows).filterMap (t.cutReport? map c slot)
      ∧ (writeCells map c slot row (t.runningAbove map c slot row) w
          ((List.range' row rows).map (t.cell c slot))).1.pending
        = owed (t.rowKind map c slot) (row + rows) := by
  induction rows generalizing row w with
  | zero => exact ⟨rfl, pending⟩
  | succ rows ih =>
    have columns : ((t.runningAbove map c slot row).codeCell map ⟨c, slot, row⟩
        (t.cell c slot row)).errors.filter PackError.isSkipOverflow = [] :=
      List.filter_eq_nil_iff.mpr fun e member => by simp [isSkipOverflow_of_mem_codeCell member]
    have shift : row + (rows + 1) = row + 1 + rows := by omega
    rw [List.range'_succ, List.map_cons, shift]
    by_cases none : t.rowTokens map c slot row = []
    · have kind : t.rowKind map c slot row = .silent := if_pos none
      have next : (w.silent 1).pending = owed (t.rowKind map c slot) (row + 1) := by
        rw [owed, kind, ← pending]
        rfl
      obtain ⟨reports, left⟩ := ih (row + 1) next
      have uncut : t.cutReport? map c slot row = Option.none := if_neg fun h => h.1 kind
      rw [writeCells_cons_of_silent none, List.filter_append, columns,
        List.filterMap_cons_none uncut]
      exact ⟨reports, left⟩
    · have kind : t.rowKind map c slot row
          = if endsRow ⟨c, slot, row⟩ (t.cell c slot row).note then .ended else .begun :=
        if_neg none
      have next : (w.write (t.rowTokens map c slot row)
          (endsRow ⟨c, slot, row⟩ (t.cell c slot row).note)).1.pending
            = owed (t.rowKind map c slot) (row + 1) := by
        rw [owed, kind]
        cases endsRow ⟨c, slot, row⟩ (t.cell c slot row).note <;> rfl
      obtain ⟨reports, left⟩ := ih (row + 1) next
      have tokens : t.rowKind map c slot row ≠ .silent := by
        rw [kind]
        split <;> exact RowKind.noConfusion
      rw [writeCells_cons_of_tokens none (w.write_eq _ _), List.filter_append, List.filter_append,
        columns, filter_gapReport_of_tokens pending tokens, List.nil_append]
      refine ⟨(congrArg (_ ++ ·) reports).trans ?_, left⟩
      cases cut : t.cutReport? map c slot row <;> simp [cut]

theorem overflow_column :
    (writeCells map c slot 0 .start .new (t.column c slot)).2.filter PackError.isSkipOverflow
        = (List.range t.patternLength).filterMap (t.cutReport? map c slot)
      ∧ (writeCells map c slot 0 .start .new (t.column c slot)).1.pending
        = owed (t.rowKind map c slot) t.patternLength := by
  have start : (SkipWriter.new : SkipWriter Token).pending = owed (t.rowKind map c slot) 0 := rfl
  have rows := overflow_writeCells t.patternLength 0 start
  rwa [← List.range_eq_range', ← Track.column_eq_map, Nat.zero_add] at rows

end

section
variable (t : Track) (map : List UInt8) (c : Channel) (slot : UInt8)

theorem map_gapReport_of_lt {row : Nat} (inside : row < t.patternLength) :
    (longGap? (t.rowKind map c slot) t.patternLength row).map
        (fun gap => t.gapReport c slot gap.1 gap.2)
      = t.cutReport? map c slot row := by
  have earlier : row ≠ t.patternLength := Nat.ne_of_lt inside
  simp only [longGap?, Track.cutReport?, earlier, inside, true_and, or_false]
  split_ifs
  · rw [Option.map_some, Track.gapReport, if_neg earlier, Nat.sub_sub_self (owed_le _ _)]
  · rfl

theorem map_gapReport_end :
    (longGap? (t.rowKind map c slot) t.patternLength t.patternLength).map
        (fun gap => t.gapReport c slot gap.1 gap.2)
      = (writeCells map c slot 0 .start .new (t.column c slot)).1.overflow?.map
          (PackError.tooManySkipsAtEnd c slot) := by
  rw [overflow?_eq overflow_column.2]
  simp only [longGap?, or_true, true_and]
  split_ifs
  · rw [Option.map_some, Track.gapReport, if_pos rfl, Nat.sub_sub_self (owed_le _ _)]
    rfl
  · rfl

theorem filter_errors_encode_of_gaps :
    (encode t map c slot).errors.filter PackError.isSkipOverflow
      = (longGaps (t.rowKind map c slot) t.patternLength).map
          fun gap => t.gapReport c slot gap.1 gap.2 := by
  have inRows := List.filterMap_congr fun row member =>
    map_gapReport_of_lt t map c slot (List.mem_range.mp member)
  have single (f : Nat → Option PackError) (row : Nat) : [row].filterMap f = (f row).toList := by
    cases found : f row <;> simp [found]
  have whole (cut : Option Nat) : (cut.map (PackError.tooManySkipsAtEnd c slot)).toList.filter
      PackError.isSkipOverflow = (cut.map (PackError.tooManySkipsAtEnd c slot)).toList := by
    cases cut <;> rfl
  rw [longGaps, List.map_filterMap, List.range_succ, List.filterMap_append, inRows, single,
    map_gapReport_end, encode, List.filter_append, overflow_column.1, whole]
  rfl

theorem rowsOf_encode :
    rowsOf (encode t map c slot).value.tokens + lostRows (encode t map c slot).errors
      = t.patternLength := by
  have settled : (writeCells map c slot 0 .start .new (t.column c slot)).1.Settled :=
    settled_writeCells map c slot _ 0 .start .new
  have written := rowsOf_writeCells map c slot (t.column c slot) 0 .start .new
  have finished := settled.rowsOf_finish c slot
  rw [Track.length_column] at written
  change _ = 0 + 0 + t.patternLength at written
  rw [encode, lostRows_append]
  change rowsOf (SkipWriter.finish _).1
    + (_ + lostRows (Option.map _ (SkipWriter.overflow? _)).toList) = _
  omega

end

/-- Only rows that are reported are lost. A driver plays as many rows as the stream of a pattern
accounts for; with the rows that the reports show as lost, they are the rows of the pattern. No
skip is longer than its byte can say, and the reports are one for each gap that a skip cannot
hold. -/
theorem encode_loses_reported_rows {t : Track} (volumes : t.VolumesInRange) (map : List UInt8)
    (c : Channel) (slot : UInt8) (r : Registers) :
    let coded := encode t map c slot
    Token.split? coded.value.bytes = some coded.value.tokens
      ∧ (∃ played, playBytes? r coded.value.bytes = some played
        ∧ played.length = rowsOf coded.value.tokens)
      ∧ rowsOf coded.value.tokens + lostRows coded.errors = t.patternLength
      ∧ (∀ rows, .skip rows ∈ coded.value.tokens → rows ≤ 0x7F)
      ∧ ∃ gaps : List (Nat × Nat), gaps.Nodup
        ∧ (∀ first stop, (first, stop) ∈ gaps
          ↔ LongGap (t.rowKind map c slot) t.patternLength first stop)
        ∧ coded.errors.filter PackError.isSkipOverflow
          = gaps.map fun gap => t.gapReport c slot gap.1 gap.2 := by
  intro coded
  have writes : Token.Writes coded.value.tokens coded.value.bytes :=
    writes_encode volumes map c slot
  refine ⟨writes.split?, ⟨play r [] coded.value.tokens, ?_, length_play r [] _⟩,
    rowsOf_encode t map c slot, fun rows member => writes.proper _ member, longGaps _ _,
    nodup_longGaps, fun first stop => mem_longGaps_iff, filter_errors_encode_of_gaps t map c slot⟩
  rw [playBytes?, writes.split?, Option.map_some]

/-- A row with a volume only, and 149 rows before and after a note. -/
def gappedTrack : Track :=
  { Track.new "gapped" with
    patternLength := 300
    patterns := [⟨Pattern.emptyRow.set .pulse1 ⟨.blank, none, some 7, []⟩
      :: List.replicate 149 Pattern.emptyRow
      ++ [Pattern.emptyRow.set .pulse1 ⟨.tone 4 0, none, none, []⟩]⟩] }

theorem gappedTrack_loses_reported_rows :
    gappedTrack.VolumesInRange
      ∧ (encode gappedTrack [] .pulse1 0).errors
        = [.tooManySkips ⟨.pulse1, 0, 150⟩ 150, .tooManySkipsAtEnd .pulse1 0 149]
      ∧ (∃ played, playBytes? ⟨0, 0⟩ (encode gappedTrack [] .pulse1 0).value.bytes = some played
        ∧ played.length = 256)
      ∧ 256 + (150 - 128) + (149 - 127) = gappedTrack.patternLength := by
  have volumes : gappedTrack.VolumesInRange := by decide +kernel
  have reports : (encode gappedTrack [] .pulse1 0).errors
      = [.tooManySkips ⟨.pulse1, 0, 150⟩ 150, .tooManySkipsAtEnd .pulse1 0 149] := by
    decide +kernel
  obtain ⟨-, ⟨played, read, length⟩, total, -⟩ :=
    encode_loses_reported_rows volumes [] .pulse1 0 ⟨0, 0⟩
  have lost : lostRows (encode gappedTrack [] .pulse1 0).errors = 44 := by rw [reports]; rfl
  have whole : gappedTrack.patternLength = 300 := rfl
  exact ⟨volumes, reports, ⟨played, read, by omega⟩, rfl⟩

end Bytecode

end TuneBank
