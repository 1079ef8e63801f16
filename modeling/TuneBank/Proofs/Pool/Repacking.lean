import TuneBank.Proofs.Pool.Runs

/-! Songs packed again. Once a table has answered a request, every later table gives the same number
for it and stays as it is. Each stage of a song is a run of requests, so a song that was packed
before gets the same numbers, streams and reports, whatever was packed in between and under
whatever title it comes back. -/

namespace TuneBank

section
variable {κ ω : Type} [DecidableEq κ]

theorem findIdx?_of_prefix {table later : List (Entry κ ω)} (grown : table <+: later)
    {content : κ} {i : Nat} (found : table.findIdx? (·.content = content) = some i) :
    later.findIdx? (·.content = content) = some i := by
  obtain ⟨more, rfl⟩ := grown
  rw [List.findIdx?_append, found, Option.some_or]

theorem findIdx?_intern (table : List (Entry κ ω)) (content : κ) (origin : ω) :
    (intern table content origin).1.findIdx? (·.content = content)
      = some (intern table content origin).2.index := by
  unfold intern
  split
  · assumption
  · rename_i none
    simp [List.findIdx?_append, none]

theorem intern_again {table later : List (Entry κ ω)} {content : κ} {origin : ω}
    (grown : (intern table content origin).1 <+: later) (again : ω) :
    intern later content again = (later, ⟨(intern table content origin).2.index, false⟩) := by
  rw [intern, findIdx?_of_prefix grown (findIdx?_intern table content origin)]

end

namespace Pool

variable {p q : Pool} {author : String}

theorem internMacros_cons (title : String) (kind : MacroKind) (p : Pool) (i : Nat) (m : Macro)
    (ms : List Macro) :
    internMacros title kind p i (m :: ms) =
      let first := intern p.macros m (.track title kind i)
      let rest := internMacros title kind { p with macros := first.1 } (i + 1) ms
      (rest.1, first.2.index :: rest.2) := rfl

theorem grows_internMacros (title : String) (kind : MacroKind) (p : Pool) (i : Nat)
    (ms : List Macro) : p.Grows (internMacros title kind p i ms).1 := by
  rw [internMacros_eq]
  exact { Grows.refl p with macros := prefix_internAll _ _ }

theorem internMacros_again {kind : MacroKind} {i : Nat} {ms : List Macro}
    (grown : (internMacros author kind p i ms).1.Grows q) (title : String) :
    internMacros title kind q i ms = (q, (internMacros author kind p i ms).2) := by
  induction ms generalizing p i with
  | nil => rfl
  | cons m ms ih =>
    rw [internMacros_cons] at grown ⊢
    have first := intern_again ((grows_internMacros author kind _ (i + 1) ms).trans grown).macros
      (.track title kind i)
    simp only [first, ih grown]
    rfl

theorem grows_foldl_remapKind (track : Track) (kinds : List MacroKind) (s : Pool × MacroMap) :
    s.1.Grows (kinds.foldl (remapKind track) s).1 := by
  rw [foldl_remapKind_pool]
  exact { Grows.refl s.1 with macros := prefix_internAll _ _ }

theorem foldl_remapKind_again {track : Track} {kinds : List MacroKind} {map : MacroMap}
    (grown : (kinds.foldl (remapKind track) (p, map)).1.Grows q) (title : String) :
    kinds.foldl (remapKind { track with title := title }) (q, map)
      = (q, (kinds.foldl (remapKind track) (p, map)).2) := by
  induction kinds generalizing p map with
  | nil => rfl
  | cons kind kinds ih =>
    rw [List.foldl_cons] at grown
    have here : (internMacros track.title kind p 0 (track.macros.get kind)).1.Grows q :=
      (grows_foldl_remapKind track kinds (remapKind track (p, map) kind)).trans grown
    have step : remapKind { track with title := title } (q, map) kind
        = (q, (remapKind track (p, map) kind).2) := by
      have same := internMacros_again here title
      simp only [remapKind, same]
    rw [List.foldl_cons, List.foldl_cons, step]
    exact ih grown

theorem remapMacros_again {track : Track} (grown : (p.remapMacros track).1.Grows q)
    (title : String) :
    q.remapMacros { track with title := title } = (q, (p.remapMacros track).2) :=
  foldl_remapKind_again grown title

theorem grows_internInstruments (title : String) (map : MacroMap) (p : Pool) (number : Nat)
    (is : List Instrument) : p.Grows (internInstruments title map p number is).1 := by
  rw [internInstruments_pool]
  exact { Grows.refl p with instruments := prefix_internAll _ _ }

theorem internInstruments_again {map : MacroMap} {number : Nat} {is : List Instrument}
    (grown : (internInstruments author map p number is).1.Grows q) (title : String) :
    internInstruments title map q number is
      = (q, (internInstruments author map p number is).2) := by
  induction is generalizing p number with
  | nil => rfl
  | cons i is ih =>
    rw [internInstruments_cons] at grown ⊢
    have first := intern_again
      ((grows_internInstruments author map _ (number + 1) is).trans grown).instruments
      ⟨title, i.name⟩
    simp only [first, ih grown]
    rfl

end Pool

namespace PatternDraft
variable {track : Track} {instruments : List UInt8} {d : PatternDraft} {q : Pool}

/-- The numbers and reports of a draft, as they are for a pool that had all its patterns before. -/
def again (d : PatternDraft) (q : Pool) : PatternDraft :=
  { d with pool := q, newPatterns := [] }

theorem addSlot_eq (track : Track) (instruments : List UInt8) (v : Voice) (d : PatternDraft)
    (slot : UInt8) :
    d.addSlot track instruments v slot =
      let stream := Bytecode.encode track instruments v.channel slot
      let first := intern d.pool.patterns stream.value.bytes ⟨track.title, v.channel, slot⟩
      { pool := { d.pool with patterns := first.1 }
        map := d.map.set v (d.map.get v ++ [first.2.index])
        newPatterns := d.newPatterns ++ (if first.2.isNew then [first.2.index] else [])
        errors := d.errors ++ stream.errors
        loops := d.loops + stream.value.loops } := rfl

theorem addSlot_again {v : Voice} {slot : UInt8}
    (grown : (d.addSlot track instruments v slot).pool.Grows q) (title : String) :
    (d.again q).addSlot { track with title := title } instruments v slot
      = (d.addSlot track instruments v slot).again q := by
  have stream : Bytecode.encode { track with title := title } instruments v.channel slot
      = Bytecode.encode track instruments v.channel slot := rfl
  have found : intern (d.again q).pool.patterns
      (Bytecode.encode track instruments v.channel slot).value.bytes ⟨title, v.channel, slot⟩
      = (q.patterns, _) := intern_again grown.patterns _
  rw [addSlot_eq, stream]
  simp only [found]
  rfl

theorem foldl_addSlot_again {jobs : List (Voice × UInt8)}
    (grown : (jobs.foldl (fun d job => addSlot track instruments job.1 d job.2) d).pool.Grows q)
    (title : String) :
    jobs.foldl (fun d job => addSlot { track with title := title } instruments job.1 d job.2)
        (d.again q)
      = (jobs.foldl (fun d job => addSlot track instruments job.1 d job.2) d).again q := by
  induction jobs generalizing d with
  | nil => rfl
  | cons job jobs ih =>
    rw [List.foldl_cons] at grown
    have later : (d.addSlot track instruments job.1 job.2).pool.Grows q := by
      refine Pool.Grows.trans ?_ grown
      rw [Pool.foldl_addSlot_pool]
      exact { Pool.Grows.refl _ with patterns := prefix_internAll _ _ }
    rw [List.foldl_cons, List.foldl_cons, addSlot_again later title, ih grown]

end PatternDraft

namespace Pool
variable {p q : Pool} {track : Track}

theorem packPatterns_again {instruments : List UInt8}
    (grown : (p.packPatterns track instruments).pool.Grows q) (title : String) :
    q.packPatterns { track with title := title } instruments
      = (p.packPatterns track instruments).again q := by
  rw [packPatterns_eq_foldl] at grown ⊢
  rw [packPatterns_eq_foldl]
  exact PatternDraft.foldl_addSlot_again grown title

theorem packSong_eq (p : Pool) (track : Track) :
    p.packSong track =
      let named := (p.remapMacros track).1.remapInstruments track (p.remapMacros track).2
      let draft := named.1.packPatterns track named.2.1
      let order := remapOrder track.order draft.map
      (draft.pool,
        { value :=
            { title := track.title
              speed := track.speed
              patternLength := track.patternLength
              order := order.value
              newPatterns := draft.newPatterns }
          errors := named.2.2 ++ draft.errors ++ order.errors
            ++ if draft.loops = 0 then [.noLoopPoint] else [] }) := rfl

theorem packSong_again (grown : (p.packSong track).1.Grows q) (title : String) :
    q.packSong { track with title := title } =
      (q, { value := { (p.packSong track).2.value with title := title, newPatterns := [] }
            errors := (p.packSong track).2.errors }) := by
  let named := (p.remapMacros track).1.remapInstruments track (p.remapMacros track).2
  have patterns : named.1.Grows q := (grows_packPatterns _ track _).trans grown
  have macros : (p.remapMacros track).1.Grows q :=
    (grows_remapInstruments _ track _).trans patterns
  have second : q.remapInstruments { track with title := title } (p.remapMacros track).2
      = (q, named.2) := internInstruments_again patterns title
  have third : q.packPatterns { track with title := title } named.2.1
      = (named.1.packPatterns track named.2.1).again q := packPatterns_again grown title
  rw [packSong_eq, remapMacros_again macros title]
  simp only [second, third]
  rfl

/-- Packing a song once more, under any title and after any other songs, leaves the pool as it is
and gives the order and the reports of the first time, indices that were cut to a byte included. -/
theorem repacking_changes_nothing (p : Pool) (track : Track) (others : List Track)
    (title : String) :
    let first := p.packSong track
    let between := (first.1.packSongs others).1
    let again := between.packSong { track with title := title }
    again.1 = between ∧ again.2.value.order = first.2.value.order
      ∧ again.2.value.newPatterns = [] ∧ again.2.errors = first.2.errors := by
  intro first between again
  have same : again = _ := packSong_again (grows_packSongs first.1 others) title
  rw [same]
  exact ⟨rfl, rfl, rfl, rfl⟩

end Pool
end TuneBank
