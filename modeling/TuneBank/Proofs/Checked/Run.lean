import TuneBank.Proofs.Batch.Calls
import TuneBank.Proofs.Checked.Listing
import TuneBank.Run
import TuneBank.Summary

/-! Whole runs with checked steps. The statistics look up the patterns that each song added, which
are in the pool from the moment they are added and stay there. `no_step_fails` puts the runs, the
artifacts, the imports, the summaries and the encoders together. -/

namespace TuneBank

/-! Patterns that songs added -/

def PatternDraft.Indexed (d : PatternDraft) : Prop :=
  ∀ i ∈ d.newPatterns, i < d.pool.patterns.length

theorem index_intern_lt {κ ω : Type} [DecidableEq κ] (table : List (Entry κ ω)) (content : κ)
    (origin : ω) :
    (intern table content origin).2.index < (intern table content origin).1.length := by
  obtain ⟨e, there, -⟩ := Option.map_eq_some_iff.mp (content_intern table content origin)
  exact (List.getElem?_eq_some_iff.mp there).1

theorem PatternDraft.Indexed.addSlot {d : PatternDraft} (h : d.Indexed) (track : Track)
    (instruments : List UInt8) (v : Voice) (slot : UInt8) :
    (d.addSlot track instruments v slot).Indexed := by
  intro i member
  rcases List.mem_append.mp member with old | new
  · exact Nat.lt_of_lt_of_le (h i old) (prefix_intern _ _ _).length_le
  · obtain ⟨-, here⟩ := List.mem_ite_nil_right.mp new
    rw [List.mem_singleton.mp here]
    exact index_intern_lt _ _ _

theorem PatternDraft.indexed_foldl {α : Type} {f : PatternDraft → α → PatternDraft}
    (step : ∀ d a, d.Indexed → (f d a).Indexed) (as : List α) {d : PatternDraft}
    (h : d.Indexed) : (as.foldl f d).Indexed := by
  induction as generalizing d with
  | nil => exact h
  | cons a as ih => exact ih (step d a h)

theorem Pool.indexed_packPatterns (p : Pool) (track : Track) (instruments : List UInt8) :
    (p.packPatterns track instruments).Indexed := by
  refine PatternDraft.indexed_foldl (fun d v h => ?_) Voice.all fun i member =>
    absurd member List.not_mem_nil
  exact PatternDraft.indexed_foldl (fun d slot h => h.addSlot track instruments v slot) _ h

def PackedSet.Indexed (set : PackedSet) : Prop :=
  ∀ e ∈ set.songs, ∀ i ∈ e.song.newPatterns, i < set.pool.patterns.length

theorem Batch.indexed_add {b : Batch} (h : b.set.Indexed) (call : Call) :
    (b.add call.kind call.source call.text).1.set.Indexed := by
  have grown := (extends_add b call).pool.patterns.length_le
  cases kind : call.kind with
  | music =>
    rw [kind] at grown
    intro e member i new
    rcases List.mem_append.mp member with old | last
    · exact Nat.lt_of_lt_of_le (h e old i new) grown
    · obtain rfl := List.mem_singleton.mp last
      exact Pool.indexed_packPatterns _ _ _ i new
  | sfx => exact h

theorem Batch.indexed_addAll {b : Batch} (h : b.set.Indexed) (calls : List Call) :
    (b.addAll calls).set.Indexed := by
  induction calls generalizing b with
  | nil => exact h
  | cons call calls ih => exact ih (indexed_add h call)

theorem Batch.indexed_addAll_new (calls : List Call) : (new.addAll calls).set.Indexed :=
  indexed_addAll (fun _ member => absurd member List.not_mem_nil) calls

namespace Checked

/-! Artifacts -/

def songSize (p : Pool) (s : PackedSong) : Checked Nat := do
  let costs ← s.newPatterns.mapM fun i => do
    let e ← index p.patterns i
    return Cost.ofPattern e.content
  return Cost.total costs + Cost.ofOrder s + Cost.songNumbers

def songLine (p : Pool) (i : Nat) (e : SongEntry) : Checked String := do
  let size ← songSize p e.song
  return "Song " ++ Text.column 2 i ++ ":         " ++ Statistics.bytesText size ++ " in "
    ++ Text.column 3 e.song.newPatterns.length ++ " patterns (" ++ e.ident ++ ")"

def statistics (set : PackedSet) : Checked String := do
  let songs ← eachEntry (songLine set.pool) set.songs
  let lines : List String := Statistics.countLines set ++ [""]
    ++ Statistics.sizeLines (.of set) ++ [""]
    ++ MacroKind.all.map (Statistics.kindLine set.pool) ++ [""] ++ songs ++ [""]
    ++ (set.pool.sfx.zip set.sfxIdents).mapIdx Statistics.sfxLine
  return Text.unlines lines
    ++ (if set.report.isEmpty then "" else "\n\nReported errors:\n" ++ set.report.text)

def files (set : PackedSet) (segment : String) : Checked (List (String × String)) := do
  let music ← music set segment
  let statistics ← statistics set
  return [ ("data_music.inc", Listing.text music),
    ("data_music_enums.inc", Listing.text (Listing.symbols set)),
    ("music_stats.txt", statistics) ]

theorem songLine_value {p : Pool} {e : SongEntry}
    (indexed : ∀ i ∈ e.song.newPatterns, i < p.patterns.length) (i : Nat) :
    songLine p i e = .ok (Statistics.songLine p i e) := by
  have costs : (e.song.newPatterns.mapM fun i => do
        let e ← index p.patterns i
        return Cost.ofPattern e.content)
      = (.ok (e.song.newPatterns.map fun i =>
          Cost.ofPattern ((p.patterns[i]?.map Entry.content).getD [])) : Checked (List Nat)) := by
    refine mapM_value fun i member => ?_
    have there := List.getElem?_eq_getElem (indexed i member)
    rw [index_value there, there]
    rfl
  rw [songLine, songSize, costs]
  rfl

theorem statistics_value {set : PackedSet} (indexed : set.Indexed) :
    statistics set = .ok (Statistics.text set) := by
  rw [statistics, eachEntry_value fun i e member => songLine_value (indexed e member) i]
  rfl

theorem files_value {set : PackedSet} (indexed : set.Indexed) (segment : String) :
    files set segment = .ok (set.files segment) := by
  rw [files, music_value, ok_bind, statistics_value indexed]
  rfl

/-! Summaries -/

def playedCells (t : Track) (c : Channel) : Checked (List Cell) := do
  let column ← t.order.mapM fun frame => index frame.toList c.index
  let cells ← (bytesWhere fun slot => column.any (· == slot)).mapM fun slot =>
    (List.range t.patternLength).mapM (cell t c slot)
  return cells.flatten

theorem playedCells_value (t : Track) (c : Channel) : playedCells t c = .ok (t.playedCells c) := by
  have column (slot : UInt8) :
      (List.range t.patternLength).mapM (cell t c slot) = .ok (t.column c slot) := by
    rw [Track.column_eq_map]
    exact mapM_value fun row _ => cell_value t c slot row
  rw [playedCells, mapM_value fun frame _ => index_channel frame c, ok_bind,
    mapM_value fun slot _ => column slot]
  simp only [List.any_map, ok_bind, pure_eq_ok, Track.playedCells, Track.playedSlots,
    List.flatMap_def]
  rfl

def macroCounts (t : Track) : Checked (PerKind Nat) :=
  MacroKind.all.foldlM
    (fun counts kind => do
      let macros ← index t.macros.toList kind.index
      setEntry PerKind.ofList? counts.toList kind.index macros.length)
    ⟨0, 0, 0, 0, 0⟩

theorem macroCounts_value (t : Track) :
    macroCounts t = .ok (.ofFn fun kind => (t.macros.get kind).length) := by
  have step (counts : PerKind Nat) (kind : MacroKind) :
      (do
        let macros ← index t.macros.toList kind.index
        setEntry PerKind.ofList? counts.toList kind.index macros.length)
      = .ok (counts.set kind (t.macros.get kind).length) := by
    rw [index_kind, ok_bind, setEntry_kind]
  exact foldlM_value step _

def countChannel (t : Track) (s : PerChannel Nat × List Cell) (c : Channel) :
    Checked (PerChannel Nat × List Cell) := do
  let cells ← playedCells t c
  let before ← index s.1.toList c.index
  let notes ← setEntry PerChannel.ofList? s.1.toList c.index
    (before + cells.countP (·.note.isSounding))
  return (notes, s.2 ++ cells)

theorem countChannel_value (t : Track) (s : PerChannel Nat × List Cell) (c : Channel) :
    countChannel t s c
      = .ok (s.1.set c (s.1.get c + (t.playedCells c).countP (·.note.isSounding)),
          s.2 ++ t.playedCells c) := by
  rw [countChannel, playedCells_value, ok_bind, index_channel, ok_bind, setEntry_channel]
  rfl

def summarize (t : Track) : Checked Summary := do
  let macros ← macroCounts t
  let (notes, cells) ← Channel.all.foldlM (countChannel t) (⟨0, 0, 0, 0, 0⟩, [])
  let codes := cells.flatMap fun cell => cell.effects.map Effect.code
  let numbers := cells.filterMap Cell.instrument
  return {
    frames := t.order.length
    patternSlots := t.patterns.length
    macros := macros
    instruments := t.instruments.length
    notes := notes
    hasHalt := cells.any (·.note == .halt)
    hasRelease := cells.any (·.note == .release)
    effects := bytesWhere codes.contains
    instrumentsUsed := bytesWhere numbers.contains }

theorem summarize_value (t : Track) : summarize t = .ok (.of t) := by
  have counted : Channel.all.foldlM (countChannel t) (⟨0, 0, 0, 0, 0⟩, [])
      = .ok (.ofFn fun c => (t.playedCells c).countP (·.note.isSounding),
          Channel.all.flatMap t.playedCells) := by
    rw [foldlM_value (countChannel_value t)]
    simp [Channel.all, PerChannel.set, PerChannel.ofFn, PerChannel.get]
  rw [summarize, macroCounts_value, ok_bind, counted]
  rfl

/-! Runs -/

def addAll (b : Batch) (calls : List Batch.Call) : Checked Batch :=
  calls.foldlM
    (fun b call => do
      let (b, _) ← add b call.kind call.source call.text
      return b)
    b

theorem addAll_value (b : Batch) (calls : List Batch.Call) :
    addAll b calls = .ok (b.addAll calls) := by
  refine foldlM_value (fun b call => ?_) b
  rw [add_value]
  rfl

def run (calls : List Batch.Call) (segment : String) : Checked (List (String × String)) := do
  let b ← addAll .new calls
  files b.set segment

theorem run_value (calls : List Batch.Call) (segment : String) :
    run calls segment = .ok ((Batch.new.addAll calls).set.files segment) := by
  rw [run, addAll_value, ok_bind, files_value (Batch.indexed_addAll_new calls)]

/-- No step fails: not in a run over any texts and in writing what it holds, and not in importing
any track of any text, in its summary and in the stream of any of its slots. Each comes out as it
does without the checks. -/
theorem no_step_fails :
    (∀ calls segment, run calls segment = .ok ((Batch.new.addAll calls).set.files segment))
      ∧ ∀ text wanted,
        load text wanted = .ok (Export.load text wanted)
        ∧ summarize (Export.load text wanted).value = .ok (.of (Export.load text wanted).value)
        ∧ ∀ map c slot, encode (Export.load text wanted).value map c slot
          = .ok ((Bytecode.encode (Export.load text wanted).value map c slot).map
              fun stream => ⟨stream.bytes, stream.loops⟩) :=
  ⟨run_value, fun text wanted => ⟨load_value text wanted, summarize_value _,
    fun map c slot => encode_value (Export.exportable_load text wanted) map c slot⟩⟩

end Checked

end TuneBank
