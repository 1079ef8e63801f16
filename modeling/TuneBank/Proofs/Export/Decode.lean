import TuneBank.Proofs.Export.Columns

/-! Printed records are decoded. There is one lemma per kind of record; `decode_of_prints` puts them
together and says that a record never spreads over two lines. -/

namespace TuneBank.Export

open List (Forall₂)
open Text (Base Word Spaced Gap SpellsInt)

/-! Lines -/

theorem decode_of_fields {line : String} {kind : RecordKind} {fields : List String} {r : Record}
    (cut : Text.fields line = kind.name :: fields) (read : Record.read? kind line fields = some r) :
    decode line = .record r := by
  rw [decode, cut]
  simp only [RecordKind.ofName?_name, read]

theorem fieldsFrom_ne_nil {field : List Char} (started : field ≠ []) (cs : List Char) :
    Text.fieldsFrom field cs ≠ [] := by
  induction cs generalizing field with
  | nil =>
    rw [Text.fieldsFrom, if_neg (by simpa using started)]
    exact List.cons_ne_nil _ _
  | cons c cs ih =>
    rw [Text.fieldsFrom]
    split_ifs with blank empty
    · exact absurd (List.isEmpty_iff.mp empty) started
    · exact List.cons_ne_nil _ _
    · exact ih (List.cons_ne_nil _ _)

namespace Named
variable {fields : List String} {name line : String} (h : Named fields name line)
  (words : ∀ f ∈ fields, Word f)
include h words

theorem exists_fields : ∃ field rest, Text.fields line = fields ++ field :: rest := by
  obtain ⟨front, gap, spaced, between, chars⟩ := h.chars
  have started : Text.fieldsFrom [] ('"' :: (name.toList ++ ['"'])) ≠ [] := by
    rw [Text.fieldsFrom, if_neg (by decide)]
    exact fieldsFrom_ne_nil (List.cons_ne_nil _ _) _
  obtain ⟨field, rest, named⟩ := List.exists_cons_of_ne_nil started
  refine ⟨field, rest, ?_⟩
  rw [Text.fields, chars, between.fieldsFrom, spaced.fieldsFrom words, named]

theorem quoted? : Text.quoted? line = some name := by
  obtain ⟨front, gap, spaced, between, chars⟩ := h.chars
  have plain : ∀ c ∈ front, c ≠ '"' := by
    refine spaced.forall (fun f member c there same => ?_) fun c blank _ same => ?_
    · exact (words f member).noQuote (same ▸ there)
    · rw [same] at blank
      exact absurd blank (by decide)
  have noQuote : '"' ∉ front ++ gap := by
    intro member
    rcases List.mem_append.mp member with own | inside
    · exact plain '"' own rfl
    · exact absurd (between.blank '"' inside) (by decide)
  exact Text.quoted?_append noQuote chars

theorem unbroken (oneLine : '\n' ∉ name.toList) : Text.Unbroken line := by
  obtain ⟨front, gap, spaced, between, chars⟩ := h.chars
  have plain : ∀ c ∈ front, c ≠ '\n' := by
    refine spaced.forall (fun f member c there same => ?_) fun c _ other => other
    have solid := (words f member).solid c there
    rw [same] at solid
    exact absurd solid (by decide)
  constructor
  · rw [chars]
    simp only [List.mem_append, List.mem_cons, List.not_mem_nil, or_false]
    rintro ((own | inside) | same | inName | same)
    · exact plain '\n' own rfl
    · exact between.noNewline inside
    · exact absurd same (by decide)
    · exact oneLine inName
    · exact absurd same (by decide)
  · have last : line.toList.getLast? = some '"' := by
      rw [chars, ← List.cons_append, ← List.append_assoc, List.getLast?_concat]
    rw [last]
    decide

end Named

theorem unbroken_of_spaced {fields : List String} {line : String}
    (h : Spaced fields line.toList) (words : ∀ f ∈ fields, Word f) : Text.Unbroken line := by
  obtain ⟨last, ends, solid⟩ := h.getLast? words
  constructor
  · have plain : ∀ c ∈ line.toList, c ≠ '\n' := by
      refine h.forall (fun f member c there same => ?_) fun c _ other => other
      have solid := (words f member).solid c there
      rw [same] at solid
      exact absurd solid (by decide)
    exact fun member => plain '\n' member rfl
  · rw [ends]
    rintro ⟨⟩
    exact absurd solid (by decide)

theorem fields_of_spaced {fields : List String} {line : String}
    (h : Spaced fields line.toList) (words : ∀ f ∈ fields, Word f) : Text.fields line = fields :=
  h.fieldsFrom words

/-! Macros -/

theorem word_colon : Word ":" := ⟨by decide, List.forall_mem_singleton.mpr rfl, by decide⟩

theorem macroValues?_of_lead {count : Nat} {lead : String} (h : ValuesLead count lead)
    {values : List String} (length : values.length = count) (small : count < UInt64.size) :
    Record.macroValues? (lead :: values) = some values := by
  cases h with
  | colon => rfl
  | count spelled =>
    rw [Record.macroValues?, if_neg (Symbol.of_spells spelled).ne_colon,
      Text.natural?_of_spells spelled small]
    exact if_pos length.symm

theorem mapM_integer?_values {values : List Int8} {fields : List String}
    (h : Forall₂ (fun v field => SpellsInt (Int8.toInt v) field) values fields) :
    fields.mapM (Text.integer? 8) = some (values.map Int8.toInt) := by
  induction h with
  | nil => rfl
  | @cons v field _ _ spelled _ ih =>
    have read : Text.integer? 8 field = some v.toInt :=
      Text.integer?_of_spellsInt spelled (Int8.le_toInt v) (Int8.toInt_lt v)
    rw [List.mapM_cons, read, ih]
    rfl

theorem readMacro?_of_columns {m : MacroRecord} (fits : (Record.macroDef m).Printable)
    {kind index loopPoint release mode lead : String} {values : List String}
    (hk : Base.decimal.Spells m.kind.index kind) (hi : Base.decimal.Spells m.index.toNat index)
    (hl : SpellsInt m.loopPoint loopPoint) (hr : SpellsInt m.release release)
    (hm : SpellsInt m.mode mode) (ht : ValuesLead m.values.length lead)
    (hv : Forall₂ (fun v field => SpellsInt (Int8.toInt v) field) m.values values) :
    Record.readMacro? (kind :: index :: loopPoint :: release :: mode :: lead :: values)
      = some (.macroDef m) := by
  obtain ⟨few, ranges⟩ := fits
  have inRange {i : Int} {field : String} (spelled : SpellsInt i field)
      (member : i ∈ [m.loopPoint, m.release, m.mode]) : Text.integer? 32 field = some i :=
    Text.integer?_of_spellsInt spelled (ranges i member).1 (ranges i member).2
  have known : m.kind.index < UInt64.size := by
    cases m.kind <;> decide
  have back : (m.values.map Int8.toInt).map Int8.ofInt = m.values := by
    rw [List.map_map]
    exact (List.map_congr_left fun v _ => Int8.ofInt_toInt v).trans (List.map_id _)
  simp only [Record.readMacro?, bind, pure, Text.natural?_of_spells hk known, Option.bind_some,
    MacroKind.ofIndex?_index, Text.byte?_of_spells hi, inRange hl (by simp),
    inRange hr (by simp), inRange hm (by simp), macroValues?_of_lead ht hv.length_eq.symm few,
    mapM_integer?_values hv, back]

/-! Instruments -/

theorem readReference?_of_reference {n : Option UInt8} {field : String} (h : Reference n field) :
    Record.readReference? field = some n := by
  cases h with
  | none spelled =>
    rw [Record.readReference?, Text.integer?_of_spellsInt spelled (by decide) (by decide)]
    rfl
  | some spelled =>
    rename_i n
    have bound : n.toNat < 256 := n.toNat_lt
    have high : (n.toNat : Int) < 0x8000 := by omega
    have read : Text.integer? 16 field = some (n.toNat : Int) :=
      Text.integer?_of_spellsInt (.ofNat spelled) (by omega) high
    rw [Record.readReference?, read]
    simp only
    rw [if_neg (by omega), if_pos (by omega), Int.toNat_natCast, UInt8.ofNat_toNat]

theorem readInstrument?_of_fields {number : UInt8} {i : Instrument} {line index : String}
    {references : PerKind String} (hi : Base.decimal.Spells number.toNat index)
    (hr : ∀ kind, Reference (i.macros.get kind) (references.get kind))
    (named : Text.quoted? line = some i.name) (field : String) (rest : List String) :
    Record.readInstrument? line (index :: references.toList ++ field :: rest)
      = some (.instrument number i) := by
  have macros : references.traverse? Record.readReference? = some i.macros :=
    PerKind.traverse?_eq_some_iff.mpr fun kind => readReference?_of_reference (hr kind)
  have shape : index :: references.toList ++ field :: rest = index :: references.volume
      :: references.arpeggio :: references.pitch :: references.hiPitch :: references.duty
      :: field :: rest := rfl
  rw [shape]
  simp only [Record.readInstrument?, bind, pure, Text.byte?_of_spells hi, Option.bind_some, macros,
    named]

/-! Tracks -/

theorem readTrackHeader?_of_fields {patternLength tempo : Nat} {speed : UInt8}
    {name line length ticks beat : String}
    (fits : (Record.trackHeader patternLength speed tempo name).Printable)
    (hl : Base.decimal.Spells patternLength length) (hs : Base.decimal.Spells speed.toNat ticks)
    (ht : Base.decimal.Spells tempo beat) (named : Text.quoted? line = some name)
    (rest : List String) :
    Record.readTrackHeader? line (length :: ticks :: beat :: rest)
      = some (.trackHeader patternLength speed tempo name) := by
  obtain ⟨positive, bounded, slow, -⟩ := fits
  simp only [Record.readTrackHeader?, bind, pure,
    Text.natural?_of_spells hl (Nat.lt_succ_of_le bounded), Text.byte?_of_spells hs,
    Text.natural?_of_spells ht slow, named, Option.bind_some, Option.getD_some]
  exact if_neg (by omega)

theorem readOrder?_of_fields {number : UInt8} {frame : Frame} {index : String}
    {slots : PerChannel String} (hi : Base.hex.Spells number.toNat index)
    (hs : ∀ c, Base.hex.Spells (frame.get c).toNat (slots.get c)) :
    Record.readOrder? (index :: ":" :: slots.toList) = some (.order number frame) := by
  have frames : slots.traverse? (fun _ => Text.byte? .hex) = some frame :=
    PerChannel.traverse?_eq_some_iff.mpr fun c => Text.byte?_of_spells (hs c)
  have shape : index :: ":" :: slots.toList = [index, ":", slots.pulse1, slots.pulse2,
    slots.triangle, slots.noise, slots.dpcm] := rfl
  rw [shape]
  simp only [Record.readOrder?, if_true, bind, pure, Text.byte?_of_spells hi, Option.bind_some,
    frames]

/-! Rows -/

theorem splitAtMark_groups {groups : PerChannel (List String)}
    (free : ∀ c, ":" ∉ groups.get c) :
    ∃ rest, groups.toList.flatMap (":" :: ·) = ":" :: rest
      ∧ Text.splitAtMark ":" rest = groups.toList := by
  obtain ⟨p, q, t, n, d⟩ := groups
  refine ⟨p ++ ":" :: (q ++ ":" :: (t ++ ":" :: (n ++ ":" :: d))), by simp [PerChannel.toList,
    Channel.all, PerChannel.get], ?_⟩
  have hp : ":" ∉ p := free .pulse1
  have hq : ":" ∉ q := free .pulse2
  have ht : ":" ∉ t := free .triangle
  have hn : ":" ∉ n := free .noise
  have hd : ":" ∉ d := free .dpcm
  rw [Text.splitAtMark_append hp, Text.splitAtMark_append hq, Text.splitAtMark_append ht,
    Text.splitAtMark_append hn, Text.splitAtMark_of_free hd]
  rfl

theorem readRow?_of_fields {number : Nat} {cells : PerChannel Cell} {index : String}
    {groups : PerChannel (List String)} (fits : (Record.row number cells []).Printable)
    (hi : Base.hex.Spells number index) (hg : ∀ c, CellColumns (cells.get c) (groups.get c)) :
    Record.readRow? (index :: groups.toList.flatMap (":" :: ·)) = some (.row number cells []) := by
  obtain ⟨small, -, exportable⟩ := fits
  obtain ⟨rest, marked, split⟩ := splitAtMark_groups fun c member =>
    ((hg c).symbol (exportable c) ":" member).ne_colon rfl
  have columns : groups.traverse? readColumns? = some (.ofFn fun c => ⟨cells.get c, none⟩) :=
    PerChannel.traverse?_eq_some_iff.mpr fun c => by
      rw [PerChannel.get_ofFn]
      exact (hg c).read (exportable c)
  have back : (PerChannel.ofFn fun c => cells.get c) = cells :=
    PerChannel.ext_get fun c => PerChannel.get_ofFn _ c
  rw [marked]
  simp only [Record.readRow?, if_true, bind, pure, Text.natural?_of_spells hi small, split,
    PerChannel.ofList?_toList, Option.bind_some, columns, PerChannel.get_ofFn, Option.map_none,
    back]
  rfl

/-! All records -/

theorem words_cons {field : String} {fields : List String} (first : Word field)
    (later : ∀ f ∈ fields, Word f) : ∀ f ∈ field :: fields, Word f :=
  List.forall_mem_cons.mpr ⟨first, later⟩

theorem word_of_spells {b : Base} {n : Nat} {s : String} (h : b.Spells n s) : Word s :=
  (Symbol.of_spells h).word

theorem word_of_spellsInt {i : Int} {s : String} (h : SpellsInt i s) : Word s :=
  (Symbol.of_spellsInt h).word

theorem word_of_lead {count : Nat} {lead : String} (h : ValuesLead count lead) : Word lead := by
  cases h with
  | colon => exact word_colon
  | count spelled => exact word_of_spells spelled

theorem word_of_reference {n : Option UInt8} {field : String} (h : Reference n field) :
    Word field := by
  cases h with
  | none spelled => exact word_of_spellsInt spelled
  | some spelled => exact word_of_spells spelled

theorem words_of_values {values : List Int8} {fields : List String}
    (h : Forall₂ (fun v field => SpellsInt (Int8.toInt v) field) values fields) :
    ∀ f ∈ fields, Word f := by
  induction h with
  | nil => exact fun _ member => absurd member List.not_mem_nil
  | cons spelled _ ih => exact words_cons (word_of_spellsInt spelled) ih

theorem words_of_groups {cells : PerChannel Cell} {groups : PerChannel (List String)}
    (hg : ∀ c, CellColumns (cells.get c) (groups.get c))
    (exportable : ∀ c, (cells.get c).Exportable c) :
    ∀ f ∈ groups.toList.flatMap (":" :: ·), Word f := by
  intro f member
  obtain ⟨group, there, own⟩ := List.mem_flatMap.mp member
  obtain ⟨c, -, rfl⟩ := List.mem_map.mp there
  rcases List.mem_cons.mp own with rfl | column
  · exact word_colon
  · exact ((hg c).symbol (exportable c) f column).word

theorem mem_toList_perKind {t : PerKind String} {f : String} (member : f ∈ t.toList) :
    ∃ kind, t.get kind = f :=
  (List.mem_map.mp member).imp fun _ h => h.2

theorem mem_toList_perChannel {t : PerChannel String} {f : String} (member : f ∈ t.toList) :
    ∃ c, t.get c = f :=
  (List.mem_map.mp member).imp fun _ h => h.2

theorem decode_of_prints {r : Record} {line : String} (h : Prints r line) (fits : r.Printable) :
    decode line = .record r ∧ Text.Unbroken line := by
  have kindWord (kind : RecordKind) : Word kind.name := (Symbol.of_kind kind).word
  cases h with
  | title named =>
    have words : ∀ f ∈ [RecordKind.title.name], Word f := by simp [kindWord]
    obtain ⟨field, rest, cut⟩ := named.exists_fields words
    refine ⟨decode_of_fields cut ?_, named.unbroken words fits⟩
    rw [Record.read?, named.quoted? words]
    rfl
  | macroDef hk hi hl hr hm ht hv spaced =>
    have words := words_cons (kindWord .macroDef) <| words_cons (word_of_spells hk) <|
      words_cons (word_of_spells hi) <| words_cons (word_of_spellsInt hl) <|
      words_cons (word_of_spellsInt hr) <| words_cons (word_of_spellsInt hm) <|
      words_cons (word_of_lead ht) (words_of_values hv)
    exact ⟨decode_of_fields (fields_of_spaced spaced words)
      (readMacro?_of_columns fits hk hi hl hr hm ht hv), unbroken_of_spaced spaced words⟩
  | instrument hi hr named =>
    rename_i number i index references
    have words : ∀ f ∈ RecordKind.instrument.name :: index :: references.toList, Word f := by
      refine words_cons (kindWord .instrument) (words_cons (word_of_spells hi) fun f member => ?_)
      obtain ⟨kind, rfl⟩ := mem_toList_perKind member
      exact word_of_reference (hr kind)
    obtain ⟨field, rest, cut⟩ := named.exists_fields words
    exact ⟨decode_of_fields cut (readInstrument?_of_fields hi hr (named.quoted? words) field rest),
      named.unbroken words fits⟩
  | trackHeader hl hs ht named =>
    have words := words_cons (kindWord .trackHeader) <| words_cons (word_of_spells hl) <|
      words_cons (word_of_spells hs) (List.forall_mem_singleton.mpr (word_of_spells ht))
    obtain ⟨field, rest, cut⟩ := named.exists_fields words
    exact ⟨decode_of_fields cut (readTrackHeader?_of_fields fits hl hs ht (named.quoted? words)
      (field :: rest)), named.unbroken words fits.2.2.2⟩
  | order hi hs spaced =>
    rename_i number frame index slots
    have words : ∀ f ∈ RecordKind.order.name :: index :: ":" :: slots.toList, Word f := by
      refine words_cons (kindWord .order) <| words_cons (word_of_spells hi) <|
        words_cons word_colon fun f member => ?_
      obtain ⟨c, rfl⟩ := mem_toList_perChannel member
      exact word_of_spells (hs c)
    exact ⟨decode_of_fields (fields_of_spaced spaced words) (readOrder?_of_fields hi hs),
      unbroken_of_spaced spaced words⟩
  | patternSelect hs spaced =>
    have words := words_cons (kindWord .patternSelect)
      (List.forall_mem_singleton.mpr (word_of_spells hs))
    refine ⟨decode_of_fields (fields_of_spaced spaced words) ?_, unbroken_of_spaced spaced words⟩
    rw [Record.read?, Record.readPatternSelect?, Text.byte?_of_spells hs]
    rfl
  | row hi hg spaced =>
    have words := words_cons (kindWord .row) <| words_cons (word_of_spells hi)
      (words_of_groups hg fits.2.2)
    exact ⟨decode_of_fields (fields_of_spaced spaced words) (readRow?_of_fields fits hi hg),
      unbroken_of_spaced spaced words⟩

end TuneBank.Export
