import TuneBank.Proofs.Batch.Accounts
import TuneBank.Proofs.Batch.Symbols

/-! The figures of a statistics report, read back from its text, and how they add up: those of the
songs, of the sound effects and of the macro kinds to those of the whole run. -/

namespace TuneBank.Statistics

/-! Numbers in a line -/

/-- The fields of a line that are decimal numbers, in order. -/
def numbers (line : String) : List Nat :=
  (Text.fields line).filterMap fun field => Text.Base.decimal.digits? field.toList

theorem numbers_append {s t : String}
    (cut : s.toList.getLast? = some ' ' ∨ t.toList.head? = some ' ') :
    numbers (s ++ t) = numbers s ++ numbers t := by
  have blank : Text.isBlank ' ' = true := by decide
  unfold numbers Text.fields
  rw [← List.filterMap_append, String.toList_append]
  congr 1
  rcases cut with last | first
  · obtain ⟨front, chars⟩ := List.getLast?_eq_some_iff.mp last
    rw [chars, List.append_assoc, List.singleton_append, Text.fieldsFrom_append_blank blank,
      Text.fieldsFrom_append_blank blank]
    simp [Text.fieldsFrom]
  · obtain ⟨back, chars⟩ := List.head?_eq_some_iff.mp first
    have skipped := Text.fieldsFrom_append_blank blank [] [] back
    rw [chars, Text.fieldsFrom_append_blank blank]
    simpa [Text.fieldsFrom] using skipped.symm

theorem numbers_column_append (width n : Nat) (rest : String) :
    numbers (Text.column width n ++ rest) = numbers (Text.decimal n ++ rest) := by
  have blanks : ∀ c ∈ List.replicate (width - (Text.Base.decimal.write n).length) ' ',
      Text.isBlank c = true := by
    intro c member
    rw [(List.mem_replicate.mp member).2]
    decide
  unfold numbers Text.fields
  rw [String.toList_append, String.toList_append, Text.column, Text.decimal, String.toList_ofList,
    String.toList_ofList, Text.padLeft, List.append_assoc, Text.fieldsFrom_blanks_append blanks]

theorem numbers_decimal (n : Nat) : numbers (Text.decimal n) = [n] := by
  have spelled := Text.Base.spells_decimal n
  rw [numbers, Text.fields, (Listing.atom_of_spells spelled).word.fieldsFrom]
  exact List.filterMap_cons_some (f := fun field : String => _) spelled.digits?

theorem numbers_column (width n : Nat) : numbers (Text.column width n) = [n] := by
  have aligned := numbers_column_append width n ""
  rwa [String.append_empty, String.append_empty, numbers_decimal] at aligned

theorem digits?_of_mem {b : Text.Base} {c : Char} {cs : List Char} (member : c ∈ cs)
    (other : b.digit? c = none) : b.digits? cs = none := by
  have read (n : Nat) : b.readFrom? n cs = none := by
    induction cs generalizing n with
    | nil => exact absurd member List.not_mem_nil
    | cons d cs ih =>
      rw [Text.Base.readFrom?]
      rcases List.mem_cons.mp member with rfl | later
      · rw [other]
      · cases b.digit? d with
        | none => rfl
        | some value => exact ih later _
  cases cs with
  | nil => rfl
  | cons d cs => exact read 0

theorem numbers_word {s : String} (word : Text.Word s) {c : Char} (member : c ∈ s.toList)
    (mark : Text.Base.decimal.digit? c = none) : numbers s = [] := by
  rw [numbers, Text.fields, word.fieldsFrom]
  exact List.filterMap_cons_none (f := fun field : String => _) (digits?_of_mem member mark)

theorem numbers_name {ident : String} (atom : Listing.Atom ident) :
    numbers (" (" ++ ident ++ ")") = [] := by
  have opening : Listing.Atom "(" ∧ Listing.Atom ")" := by decide
  have word : Listing.Atom ("(" ++ ident ++ ")") := (opening.1.append atom).append opening.2
  have cut : " (" ++ ident ++ ")" = " " ++ ("(" ++ ident ++ ")") := by
    rw [show " (" = " " ++ "(" by decide, String.append_assoc, String.append_assoc,
      String.append_assoc]
  rw [cut, numbers_append (.inl (by decide)),
    numbers_word word.word (c := '(') (by simp) (by decide)]
  decide

theorem numbers_index (width i : Nat) {gap : String} (blank : gap.toList.head? = some ' ')
    (empty : numbers gap = []) : numbers (Text.column width i ++ (":" ++ gap)) = [] := by
  have word : Listing.Atom (Text.decimal i ++ ":") :=
    (Listing.atom_of_spells (Text.Base.spells_decimal i)).append (by decide)
  rw [numbers_column_append, ← String.append_assoc, numbers_append (.inr blank),
    numbers_word word.word (c := ':') (by simp) (by decide), empty, List.append_nil]

/-! Lines -/

structure Full (line : String) : Prop extends Text.Unbroken line where
  ne_empty : line ≠ ""

theorem full_of_atom {s : String} (atom : Listing.Atom s) : Full s where
  noNewline := atom.not_mem (by decide)
  noReturn last := atom.not_mem (by decide) (List.mem_of_getLast? last)
  ne_empty := by
    rintro rfl
    exact atom.1 rfl

theorem Full.append {s t : String} (plain : '\n' ∉ s.toList) (h : Full t) : Full (s ++ t) where
  noNewline := by
    rw [String.toList_append, List.mem_append, not_or]
    exact ⟨plain, h.noNewline⟩
  noReturn := by
    have last := List.getLast?_eq_some_getLast fun none => h.ne_empty (String.toList_inj.mp none)
    rw [String.toList_append, List.getLast?_append, last, Option.some_or, ← last]
    exact h.noReturn
  ne_empty none := h.ne_empty (String.append_eq_empty_iff.mp none).2

theorem noNewline_column (width n : Nat) : '\n' ∉ (Text.column width n).toList := by
  have digits := Listing.noNewline_of_spells (Text.Base.spells_decimal n)
  rw [Text.decimal, String.toList_ofList] at digits
  simp [Text.column, Text.padLeft, digits]

theorem full_bytesText {s : String} (plain : '\n' ∉ s.toList) (n : Nat) :
    Full (s ++ bytesText n) := by
  refine .append plain (.append (noNewline_column 5 n) ⟨⟨?_, ?_⟩, ?_⟩) <;> decide

theorem full_countLines (set : PackedSet) : ∀ line ∈ countLines set, Full line := by
  have number (n : Nat) := full_of_atom (Listing.atom_of_spells (Text.Base.spells_decimal n))
  simp only [countLines, List.forall_mem_cons]
  refine ⟨.append ?_ (number _), .append ?_ (number _), .append ?_ (number _),
    fun _ member => absurd member List.not_mem_nil⟩ <;> decide

theorem full_sizeLines (s : Sizes) : ∀ line ∈ sizeLines s, Full line := by
  simp only [sizeLines, List.forall_mem_cons]
  refine ⟨full_bytesText ?_ _, full_bytesText ?_ _, full_bytesText ?_ _, full_bytesText ?_ _,
    full_bytesText ?_ _, full_bytesText ?_ _, full_bytesText ?_ _,
    fun _ member => absurd member List.not_mem_nil⟩ <;> decide

theorem full_kindLine (p : Pool) (kind : MacroKind) : Full (kindLine p kind) := by
  have number := Listing.noNewline_of_spells (Text.Base.spells_decimal kind.index)
  have name : '\n' ∉ kind.name.toList := by cases kind <;> decide
  refine .append ?_ (full_of_atom (by decide))
  simp [bytesText, noNewline_column, number, name]

theorem full_songLine (p : Pool) (i : Nat) {e : SongEntry} (atom : Listing.Atom e.ident) :
    Full (songLine p i e) := by
  have name : '\n' ∉ e.ident.toList := atom.not_mem (by decide)
  refine .append ?_ (full_of_atom (by decide))
  simp [bytesText, noNewline_column, name]

theorem full_sfxLine (i : Nat) {e : SfxEntry × String} (atom : Listing.Atom e.2) :
    Full (sfxLine i e) := by
  have name : '\n' ∉ e.2.toList := atom.not_mem (by decide)
  refine .append ?_ (full_of_atom (by decide))
  simp [bytesText, noNewline_column, name]

section
variable {set : PackedSet} (named : set.Named)
include named

theorem full_songLines : ∀ line ∈ set.songs.mapIdx (songLine set.pool), Full line := by
  intro line member
  obtain ⟨i, bound, rfl⟩ := List.mem_mapIdx.mp member
  have own := named.songs.symbols _ (List.mem_map_of_mem (List.getElem_mem bound))
  exact full_songLine set.pool i (Listing.atom_of_symbol own)

theorem full_sfxLines : ∀ line ∈ (set.pool.sfx.zip set.sfxIdents).mapIdx sfxLine, Full line := by
  intro line member
  obtain ⟨i, bound, rfl⟩ := List.mem_mapIdx.mp member
  have own := named.sfx.symbols _ (List.of_mem_zip (List.getElem_mem bound)).2
  exact full_sfxLine i (Listing.atom_of_symbol own)

theorem unbroken_lines : ∀ line ∈ lines set, Text.Unbroken line := by
  have empty : Text.Unbroken "" := ⟨by decide, by decide⟩
  simp only [lines, List.forall_mem_append, List.forall_mem_singleton, List.forall_mem_map]
  exact ⟨⟨⟨⟨⟨⟨⟨⟨fun _ own => (full_countLines set _ own).toUnbroken, empty⟩,
    fun _ own => (full_sizeLines _ _ own).toUnbroken⟩, empty⟩,
    fun kind _ => (full_kindLine set.pool kind).toUnbroken⟩, empty⟩,
    fun _ own => (full_songLines named _ own).toUnbroken⟩, empty⟩,
    fun _ own => (full_sfxLines named _ own).toUnbroken⟩

theorem splitAtMark_text : ∃ rest, Text.splitAtMark "" (Text.lines (text set))
    = countLines set :: sizeLines (.of set) :: MacroKind.all.map (kindLine set.pool)
      :: set.songs.mapIdx (songLine set.pool)
      :: (set.pool.sfx.zip set.sfxIdents).mapIdx sfxLine :: rest := by
  have free {group : List String} (full : ∀ line ∈ group, Full line) : "" ∉ group :=
    fun member => (full _ member).ne_empty rfl
  have kinds : ∀ line ∈ MacroKind.all.map (kindLine set.pool), Full line :=
    List.forall_mem_map.mpr fun kind _ => full_kindLine set.pool kind
  rw [text, Text.lines_unlines_append (unbroken_lines named)]
  simp only [lines, List.append_assoc, List.cons_append, List.nil_append,
    Text.splitAtMark_append (free (full_countLines set)),
    Text.splitAtMark_append (free (full_sizeLines _)), Text.splitAtMark_append (free kinds),
    Text.splitAtMark_append (free (full_songLines named))]
  split_ifs
  · exact ⟨[], by rw [show Text.lines "" = [] from rfl, List.append_nil,
      Text.splitAtMark_of_free (free (full_sfxLines named))]⟩
  · have opened : Text.lines ("\n\nReported errors:\n" ++ set.report.text)
        = "" :: Text.lines ("\nReported errors:\n" ++ set.report.text) := by
      simp [Text.lines, Text.linesFrom, Text.closeLine]
    exact ⟨_, by rw [opened, Text.splitAtMark_append (free (full_sfxLines named))]⟩

end

/-! Figures -/

/-- The numbers of a line with a label. -/
def labelled? (label line : String) : Option (List Nat) :=
  if label.toList.isPrefixOf line.toList then some (numbers line) else none

def figure? (label line : String) : Option Nat :=
  match labelled? label line with
  | some [figure] => some figure
  | _ => none

def pair? (label line : String) : Option (Nat × Nat) :=
  match labelled? label line with
  | some [size, count] => some (size, count)
  | _ => none

structure Figures where
  macroCount : Nat
  instrumentCount : Nat
  patternCount : Nat
  sizes : Sizes
  total : Nat
  kinds : List (Nat × Nat)
  songs : List (Nat × Nat)
  sfx : List Nat

namespace Figures

/-- Read from the text of a report by the labels of its lines. -/
def read? (report : String) : Option Figures :=
  match Text.splitAtMark "" (Text.lines report) with
  | [macroCount, instrumentCount, patternCount]
      :: [macros, instruments, orders, patterns, sfx, misc, total]
      :: kindLines :: songLines :: sfxLines :: _ => do
    let sizes : Sizes := {
      macros := ← figure? "Macro size:" macros
      instruments := ← figure? "Instrument size:" instruments
      orders := ← figure? "Order size:" orders
      patterns := ← figure? "Pattern size:" patterns
      sfx := ← figure? "SFX size:" sfx
      misc := ← figure? "Misc:" misc }
    return {
      macroCount := ← figure? "Macro count:" macroCount
      instrumentCount := ← figure? "Instrument count:" instrumentCount
      patternCount := ← figure? "Pattern count:" patternCount
      sizes := sizes
      total := ← figure? "TOTAL:" total
      kinds := ← kindLines.mapM (pair? "Macro type ")
      songs := ← songLines.mapM (pair? "Song ")
      sfx := ← sfxLines.mapM (figure? "SFX ") }
  | _ => none

def of (set : PackedSet) : Figures where
  macroCount := set.pool.macros.length
  instrumentCount := set.pool.instruments.length
  patternCount := set.pool.patterns.length
  sizes := .of set
  total := (Sizes.of set).total
  kinds := MacroKind.all.map fun kind =>
    (macroKindSize set.pool kind, (macrosOf set.pool kind).length)
  songs := set.songs.map fun e => (songSize set.pool e.song, e.song.newPatterns.length)
  sfx := set.pool.sfx.map fun e => Cost.ofSfx e.sfx

end Figures

structure Front (label front : String) : Prop where
  starts : label.toList <+: front.toList
  cut : front.toList.getLast? = some ' '
  none : numbers front = []

instance (label front : String) : Decidable (Front label front) :=
  decidable_of_iff (label.toList <+: front.toList ∧ front.toList.getLast? = some ' '
    ∧ numbers front = []) ⟨fun h => ⟨h.1, h.2.1, h.2.2⟩, fun h => ⟨h.starts, h.cut, h.none⟩⟩

structure Back (tail : String) : Prop where
  cut : tail.toList.head? = some ' '
  none : numbers tail = []

theorem front_numbered {label gap : String} (h : Front label label) (blank : Front "" gap)
    (first : gap.toList.head? = some ' ') (width i : Nat) :
    Front label (label ++ (Text.column width i ++ (":" ++ gap))) where
  starts := by simp
  cut := by
    simp only [String.toList_append, List.getLast?_append, blank.cut, Option.some_or]
  none := by
    rw [numbers_append (.inl h.cut), h.none, numbers_index width i first blank.none]
    rfl

theorem back_named {stem ident : String} (none : numbers stem = [])
    (first : stem.toList.head? = some ' ') (atom : Listing.Atom ident) :
    Back (stem ++ (" (" ++ (ident ++ ")"))) where
  cut := by simp [first]
  none := by
    rw [numbers_append (.inr (by simp)), none, ← String.append_assoc, numbers_name atom]
    rfl

theorem numbers_bytesText (n : Nat) : numbers (bytesText n) = [n] := by
  rw [bytesText, numbers_append (.inr (by decide)), numbers_column]
  rfl

section
variable {label front tail : String} (h : Front label front)
include h

theorem Front.labelled?_append (rest : String) :
    labelled? label (front ++ rest) = some (numbers rest) := by
  have starts : label.toList <+: (front ++ rest).toList := by
    rw [String.toList_append]
    exact h.starts.trans (List.prefix_append _ _)
  rw [labelled?, if_pos (List.isPrefixOf_iff_prefix.mpr starts), numbers_append (.inl h.cut),
    h.none, List.nil_append]

theorem figure?_count (n : Nat) : figure? label (front ++ Text.decimal n) = some n := by
  rw [figure?, h.labelled?_append, numbers_decimal]

theorem figure?_size (n : Nat) : figure? label (front ++ bytesText n) = some n := by
  rw [figure?, h.labelled?_append, numbers_bytesText]

theorem figure?_named (back : Back tail) (n : Nat) :
    figure? label (front ++ (bytesText n ++ tail)) = some n := by
  rw [figure?, h.labelled?_append, numbers_append (.inr back.cut), numbers_bytesText, back.none]
  rfl

theorem pair?_named (back : Back tail) (size count : Nat) :
    pair? label (front ++ (bytesText size ++ (" in " ++ (Text.column 3 count ++ tail))))
      = some (size, count) := by
  rw [pair?, h.labelled?_append, numbers_append (.inr (by simp)), numbers_bytesText,
    numbers_append (.inl (by decide)), numbers_append (.inr back.cut), numbers_column, back.none]
  rfl

end

theorem pair?_kindLine (p : Pool) (kind : MacroKind) :
    pair? "Macro type " (kindLine p kind)
      = some (macroKindSize p kind, (macrosOf p kind).length) := by
  have name : Listing.Atom kind.name := by cases kind <;> decide
  have front := front_numbered (by decide : Front "Macro type " "Macro type ")
    (by decide : Front "" "    ") (by decide) 0 kind.index
  have back := back_named (by decide : numbers " macros" = []) (by decide) name
  refine (congrArg (pair? _) (String.toList_inj.mp ?_)).trans (pair?_named front back _ _)
  unfold kindLine
  simp [Text.column, Text.padLeft, Text.decimal]

theorem pair?_songLine (p : Pool) (i : Nat) {e : SongEntry} (atom : Listing.Atom e.ident) :
    pair? "Song " (songLine p i e) = some (songSize p e.song, e.song.newPatterns.length) := by
  have front := front_numbered (by decide : Front "Song " "Song ")
    (by decide : Front "" "         ") (by decide) 2 i
  have back := back_named (by decide : numbers " patterns" = []) (by decide) atom
  refine (congrArg (pair? _) (String.toList_inj.mp ?_)).trans (pair?_named front back _ _)
  unfold songLine
  simp

theorem figure?_sfxLine (i : Nat) {e : SfxEntry × String} (atom : Listing.Atom e.2) :
    figure? "SFX " (sfxLine i e) = some (Cost.ofSfx e.1.sfx) := by
  have front := front_numbered (by decide : Front "SFX " "SFX ") (by decide : Front "" "          ")
    (by decide) 2 i
  have back : Back (" (" ++ e.2 ++ ")") := ⟨by simp, numbers_name atom⟩
  refine (congrArg (figure? _) (String.toList_inj.mp ?_)).trans (figure?_named front back _)
  unfold sfxLine
  simp

theorem mapM_mapIdx {α β : Type} {read : String → Option β} {line : Nat → α → String}
    {value : α → β} {as : List α} (h : ∀ i, ∀ a ∈ as, read (line i a) = some (value a)) :
    (as.mapIdx line).mapM read = some (as.map value) := by
  induction as generalizing line with
  | nil => rfl
  | cons a as ih =>
    have first := h 0 a List.mem_cons_self
    have later : (as.mapIdx fun i => line (i + 1)).mapM read = some (as.map value) :=
      ih fun i b member => h (i + 1) b (List.mem_cons_of_mem a member)
    simp [List.mapIdx_cons, first, later]

theorem mapM_kindLine (p : Pool) :
    (MacroKind.all.map (kindLine p)).mapM (pair? "Macro type ")
      = some (MacroKind.all.map fun kind => (macroKindSize p kind, (macrosOf p kind).length)) := by
  rw [List.mapM_map]
  refine Listing.mapM_eq_map fun kind _ => ?_
  rw [Function.comp_apply, pair?_kindLine]

section
variable {set : PackedSet} (named : set.Named)
include named

theorem mapM_songLine : (set.songs.mapIdx (songLine set.pool)).mapM (pair? "Song ")
    = some (set.songs.map fun e => (songSize set.pool e.song, e.song.newPatterns.length)) :=
  mapM_mapIdx fun i _ member => pair?_songLine set.pool i
    (Listing.atom_of_symbol (named.songs.symbols _ (List.mem_map_of_mem member)))

theorem mapM_sfxLine (fits : set.Printable) :
    ((set.pool.sfx.zip set.sfxIdents).mapIdx sfxLine).mapM (figure? "SFX ")
      = some (set.pool.sfx.map fun e => Cost.ofSfx e.sfx) := by
  rw [← fits.map_zip_sfx fun e => Cost.ofSfx e.sfx]
  exact mapM_mapIdx fun i _ member => figure?_sfxLine i
    (Listing.atom_of_symbol (named.sfx.symbols _ (List.of_mem_zip member).2))

theorem Figures.read?_text (fits : set.Printable) :
    read? (text set) = some (.of set) := by
  obtain ⟨rest, groups⟩ := splitAtMark_text named
  have macros : Front "Macro size:" "Macro size:      " := by decide
  have instruments : Front "Instrument size:" "Instrument size: " := by decide
  have orders : Front "Order size:" "Order size:      " := by decide
  have patterns : Front "Pattern size:" "Pattern size:    " := by decide
  have sfx : Front "SFX size:" "SFX size:        " := by decide
  have misc : Front "Misc:" "Misc:            " := by decide
  have total : Front "TOTAL:" "TOTAL:           " := by decide
  have macroCount : Front "Macro count:" "Macro count: " := by decide
  have instrumentCount : Front "Instrument count:" "Instrument count: " := by decide
  have patternCount : Front "Pattern count:" "Pattern count: " := by decide
  rw [read?, groups]
  simp only [countLines, sizeLines, figure?_size macros, figure?_size instruments,
    figure?_size orders, figure?_size patterns, figure?_size sfx, figure?_size misc,
    figure?_size total, figure?_count macroCount, figure?_count instrumentCount,
    figure?_count patternCount, mapM_kindLine, mapM_songLine named, mapM_sfxLine named fits]
  rfl

end

/-- The figures of the songs, of the sound effects and of the kinds add up to those of the tables.
The two seeds, of ten bytes, are macros of no kind. -/
structure Figures.AddUp (f : Figures) : Prop where
  songSizes : Cost.total (f.songs.map Prod.fst) = f.sizes.patterns + f.sizes.orders + f.sizes.misc
  newPatterns : Cost.total (f.songs.map Prod.snd) = f.patternCount
  sfxSizes : Cost.total f.sfx = f.sizes.sfx
  kindSizes : Cost.total (f.kinds.map Prod.fst) + 10 = f.sizes.macros
  kindCounts : Cost.total (f.kinds.map Prod.snd) + 2 = f.macroCount
  tables : f.sizes.total = f.total

theorem Figures.addUp_of {set : PackedSet} (h : set.Accounted) : (of set).AddUp where
  songSizes := by
    rw [of, List.map_map]
    exact h.total_songSize
  newPatterns := by
    rw [of, List.map_map]
    exact h.total_newPatterns
  sfxSizes := rfl
  kindSizes := by
    rw [of, List.map_map]
    exact h.total_macroKindSize
  kindCounts := by
    rw [of, List.map_map]
    exact h.total_macrosOf
  tables := rfl

end TuneBank.Statistics

namespace TuneBank.Batch

/-- The songs of a run share out the patterns of its pool, and the figures that stand in its report
add up. -/
theorem statistics_add_up (calls : List Call) :
    let set := (new.addAll calls).set
    (set.songs.flatMap fun e => e.song.newPatterns) = List.range set.pool.patterns.length
      ∧ Statistics.Figures.read? (Statistics.text set) = some (.of set)
      ∧ (Statistics.Figures.of set).AddUp := by
  have accounted := PackedSet.Accounted.new.addAll calls
  have named := PackedSet.Named.new.addAll calls
  have fits := PackedSet.Printable.new.addAll calls
  exact ⟨accounted.patterns, Statistics.Figures.read?_text named fits,
    Statistics.Figures.addUp_of accounted⟩

end TuneBank.Batch
