import TuneBank.Listing.Music
import TuneBank.Listing.Symbols
import TuneBank.Proofs.Batch.Calls
import TuneBank.Proofs.Pool.Repacking
import TuneBank.Sizes

/-! Songs and sound effects in one run. A song is packed without a look at the sound effects, and a
sound effect touches nothing of the songs, so of two ways to mix the same songs with the same sound
effects either gives everything the other gives. A run seen by one kind of source is the run of
that kind alone. -/

namespace TuneBank

namespace Pool

def withSfx (p : Pool) (sfx : List SfxEntry) : Pool := { p with sfx := sfx }

variable {p : Pool} (sfx : List SfxEntry)

theorem foldl_remapKind_withSfx (track : Track) (kinds : List MacroKind) (map : MacroMap) :
    kinds.foldl (remapKind track) (p.withSfx sfx, map) =
      ((kinds.foldl (remapKind track) (p, map)).1.withSfx sfx,
        (kinds.foldl (remapKind track) (p, map)).2) := by
  induction kinds generalizing p map with
  | nil => rfl
  | cons kind kinds ih =>
    have step : remapKind track (p.withSfx sfx, map) kind =
        ((remapKind track (p, map) kind).1.withSfx sfx, (remapKind track (p, map) kind).2) := by
      rw [remapKind_eq, remapKind_eq]
      rfl
    rw [List.foldl_cons, step, ih]
    rfl

theorem internInstruments_withSfx (title : String) (map : MacroMap) (number : Nat)
    (is : List Instrument) :
    internInstruments title map (p.withSfx sfx) number is =
      ((internInstruments title map p number is).1.withSfx sfx,
        (internInstruments title map p number is).2) := by
  induction is generalizing p number with
  | nil => rfl
  | cons i is ih =>
    rw [internInstruments_cons, internInstruments_cons]
    have rest := ih (p := { p with instruments :=
      (intern p.instruments (references map i) ⟨title, i.name⟩).1 }) (number + 1)
    simp only [withSfx] at rest ⊢
    simp only [rest]

end Pool

def PatternDraft.withSfx (d : PatternDraft) (sfx : List SfxEntry) : PatternDraft :=
  { d with pool := d.pool.withSfx sfx }

theorem PatternDraft.foldl_addSlot_withSfx (track : Track) (instruments : List UInt8)
    (jobs : List (Voice × UInt8)) (d : PatternDraft) (sfx : List SfxEntry) :
    jobs.foldl (fun d job => addSlot track instruments job.1 d job.2) (d.withSfx sfx)
      = (jobs.foldl (fun d job => addSlot track instruments job.1 d job.2) d).withSfx sfx := by
  induction jobs generalizing d with
  | nil => rfl
  | cons job jobs ih => exact ih (d.addSlot track instruments job.1 job.2)

namespace Pool
variable (p : Pool) (sfx : List SfxEntry)

theorem packPatterns_withSfx (track : Track) (instruments : List UInt8) :
    (p.withSfx sfx).packPatterns track instruments
      = (p.packPatterns track instruments).withSfx sfx := by
  rw [packPatterns_eq_foldl, packPatterns_eq_foldl]
  exact PatternDraft.foldl_addSlot_withSfx track instruments _ ⟨p, ⟨[], [], [], []⟩, [], [], 0⟩ sfx

theorem packSong_withSfx (track : Track) :
    (p.withSfx sfx).packSong track = ((p.packSong track).1.withSfx sfx, (p.packSong track).2) := by
  have macros : (p.withSfx sfx).remapMacros track
      = ((p.remapMacros track).1.withSfx sfx, (p.remapMacros track).2) :=
    foldl_remapKind_withSfx sfx track MacroKind.all _
  have instruments (q : Pool) (map : MacroMap) : (q.withSfx sfx).remapInstruments track map
      = ((q.remapInstruments track map).1.withSfx sfx, (q.remapInstruments track map).2) :=
    internInstruments_withSfx sfx track.title map 0 track.instruments
  simp only [packSong_eq, macros, instruments, packPatterns_withSfx]
  rfl

end Pool

namespace Batch

structure Outcome where
  kind : SourceKind
  index : Nat
  sections : List Section
  deriving DecidableEq

def apply (b : Batch) (call : Call) : Batch × Outcome :=
  let (later, index) := b.add call.kind call.source call.text
  (later, ⟨call.kind, index, later.report.sections.drop b.report.sections.length⟩)

theorem kind_apply (b : Batch) (call : Call) : (b.apply call).2.kind = call.kind := rfl

def outcomes : Batch → List Call → List Outcome
  | _, [] => []
  | b, call :: calls => (b.apply call).2 :: outcomes (b.apply call).1 calls

theorem addAll_cons (b : Batch) (call : Call) (calls : List Call) :
    b.addAll (call :: calls) = (b.apply call).1.addAll calls := rfl

theorem sections_reportSource (r : Report) (source : String) (load : List Export.ImportError)
    (pack : List PackError) (title : List TitleWarning) :
    (reportSource r source load pack title).sections
      = r.sections ++ (reportSource .empty source load pack title).sections := by
  have add (r : Report) (heading : String) (lines : List String) :
      (r.add heading source lines).sections
        = r.sections ++ if lines.isEmpty then [] else [⟨heading, source, lines⟩] := by
    unfold Report.add
    split
    · exact (List.append_nil _).symm
    · rfl
  simp only [reportSource, add, Report.empty, List.nil_append, List.append_assoc]

theorem newSections (r : Report) (source : String) (load : List Export.ImportError)
    (pack : List PackError) (title : List TitleWarning) :
    (reportSource r source load pack title).sections.drop r.sections.length
      = (reportSource .empty source load pack title).sections := by
  rw [sections_reportSource, List.drop_left]

theorem apply_music (b : Batch) (source text : String) :
    b.apply ⟨.music, source, text⟩ =
      let loaded := Export.load text 1
      let packed := b.pool.packSong loaded.value
      let symbol := Title.assign (b.set.songs.map SongEntry.ident) loaded.value.title
        b.set.songs.length
      (⟨packed.1, b.set.songs ++ [⟨symbol.1, packed.2.value⟩], b.set.sfxIdents,
          reportSource b.report source loaded.errors packed.2.errors symbol.2⟩,
        ⟨.music, b.set.songs.length,
          (reportSource .empty source loaded.errors packed.2.errors symbol.2).sections⟩) := by
  simp only [← newSections b.report]
  rfl

theorem apply_sfx (b : Batch) (source text : String) :
    b.apply ⟨.sfx, source, text⟩ =
      let loaded := Export.load text 1
      let packed := Bytecode.encodeSfx loaded.value
      let symbol := Title.assign b.set.sfxIdents loaded.value.title b.pool.sfx.length
      (⟨(b.pool.pushSfx loaded.value.title packed.value).1, b.set.songs,
          b.set.sfxIdents ++ [symbol.1],
          reportSource b.report source loaded.errors packed.errors symbol.2⟩,
        ⟨.sfx, b.pool.sfx.length,
          (reportSource .empty source loaded.errors packed.errors symbol.2).sections⟩) := by
  simp only [← newSections b.report]
  rfl

theorem sections_apply (b : Batch) (call : Call) :
    (b.apply call).1.report.sections = b.report.sections ++ (b.apply call).2.sections := by
  have grown : b.report.sections <+: (b.apply call).1.report.sections := by
    cases call with | mk kind source text =>
    cases kind <;> exact ⟨_, (sections_reportSource b.report source _ _ _).symm⟩
  exact (List.prefix_iff_eq_append.mp grown).symm

theorem sections_addAll (b : Batch) (calls : List Call) :
    (b.addAll calls).report.sections
      = b.report.sections ++ (b.outcomes calls).flatMap Outcome.sections := by
  induction calls generalizing b with
  | nil => exact (List.append_nil _).symm
  | cons call calls ih =>
    rw [addAll_cons, ih, sections_apply, outcomes, List.flatMap_cons, List.append_assoc]

/-- What one kind of source reads and writes. -/
def part (b : Batch) : SourceKind → PackedSet
  | .music => ⟨b.pool.withSfx [], b.set.songs, [], .empty⟩
  | .sfx => ⟨⟨[], [], [], b.pool.sfx⟩, [], b.set.sfxIdents, .empty⟩

theorem sfx_packSong (p : Pool) (track : Track) : (p.packSong track).1.sfx = p.sfx := by
  rw [Pool.packSong_pool]

theorem part_apply_of_ne {b : Batch} {call : Call} {kind : SourceKind} (other : call.kind ≠ kind) :
    (b.apply call).1.part kind = b.part kind := by
  cases call with | mk own source text =>
  cases own <;> cases kind
  case music.sfx =>
    have sfx := sfx_packSong b.pool (Export.load text 1).value
    simp only [part]
    exact congrArg (fun sfx => PackedSet.mk ⟨[], [], [], sfx⟩ [] b.set.sfxIdents .empty) sfx
  case sfx.music => rfl
  all_goals exact absurd rfl other

theorem apply_congr {b c : Batch} {call : Call} (same : b.part call.kind = c.part call.kind) :
    (b.apply call).1.part call.kind = (c.apply call).1.part call.kind
      ∧ (b.apply call).2 = (c.apply call).2 := by
  cases call with | mk kind source text =>
  cases kind with
  | music =>
    obtain ⟨pools, songs, -, -⟩ := PackedSet.mk.inj same
    have packed := congrArg (·.packSong (Export.load text 1).value) pools
    simp only [Pool.packSong_withSfx, Prod.mk.injEq] at packed
    simp only [apply_music, part, songs, packed.2, and_true]
    exact congrArg (fun p => PackedSet.mk p _ [] .empty) packed.1
  | sfx =>
    obtain ⟨pools, -, idents, -⟩ := PackedSet.mk.inj same
    have sfx : b.pool.sfx = c.pool.sfx := (Pool.mk.inj pools).2.2.2
    simp only [apply_sfx, part, sfx, idents, and_true]
    exact congrArg (fun sfx => PackedSet.mk ⟨[], [], [], sfx ++ [_]⟩ [] _ .empty) sfx

theorem addAll_of_kind {b c : Batch} {kind : SourceKind} (same : b.part kind = c.part kind)
    (calls : List Call) :
    (b.addAll calls).part kind = (c.addAll (calls.filter (·.kind = kind))).part kind
      ∧ (b.outcomes calls).filter (·.kind = kind)
        = c.outcomes (calls.filter (·.kind = kind)) := by
  induction calls generalizing b c with
  | nil => exact ⟨same, rfl⟩
  | cons call calls ih =>
    by_cases own : call.kind = kind
    · subst own
      obtain ⟨later, outcome⟩ := apply_congr same
      obtain ⟨rest, outcomesRest⟩ := ih later
      simp only [outcomes, List.filter_cons, kind_apply, decide_true, if_true]
      exact ⟨rest, congr (congrArg List.cons outcome) outcomesRest⟩
    · simp only [outcomes, List.filter_cons, kind_apply, own, decide_false, Bool.false_eq_true,
        if_false]
      exact ih ((part_apply_of_ne own).trans same)

theorem set_eq_of_parts {b c : Batch} (music : b.part .music = c.part .music)
    (sfx : b.part .sfx = c.part .sfx) : b.set = { c.set with report := b.report } := by
  obtain ⟨tables, songs, -, -⟩ := PackedSet.mk.inj music
  obtain ⟨effects, -, idents, -⟩ := PackedSet.mk.inj sfx
  obtain ⟨macros, instruments, patterns, -⟩ := Pool.mk.inj tables
  have pools : b.pool = c.pool := by
    cases own : b.pool
    cases other : c.pool
    simp_all
  exact PackedSet.mk.injEq .. ▸ ⟨pools, songs, idents, rfl⟩

/-- Two runs give the same for the songs, the same for the sound effects and the same listings. They
differ at most in how the report mixes the sections of either kind. -/
structure SameResults (calls others : List Call) : Prop where
  outcomes : ∀ kind, (new.outcomes calls).filter (·.kind = kind)
    = (new.outcomes others).filter (·.kind = kind)
  tables : (new.addAll calls).pool = (new.addAll others).pool
  songs : (new.addAll calls).set.songs = (new.addAll others).set.songs
  sfxIdents : (new.addAll calls).set.sfxIdents = (new.addAll others).set.sfxIdents
  music : ∀ memory, Listing.text (Listing.music (new.addAll calls).set memory)
    = Listing.text (Listing.music (new.addAll others).set memory)
  symbols : Listing.text (Listing.symbols (new.addAll calls).set)
    = Listing.text (Listing.symbols (new.addAll others).set)
  report : (new.addAll calls).report.sections = (new.outcomes calls).flatMap Outcome.sections
    ∧ (new.addAll others).report.sections = (new.outcomes others).flatMap Outcome.sections

/-- Songs and sound effects do not interfere: only the order within either kind matters. -/
theorem sameResults_of_interleaving {calls others : List Call}
    (order : ∀ kind : SourceKind, calls.filter (·.kind = kind) = others.filter (·.kind = kind)) :
    SameResults calls others := by
  have run (kind : SourceKind) : (new.addAll calls).part kind = (new.addAll others).part kind
      ∧ (new.outcomes calls).filter (·.kind = kind)
        = (new.outcomes others).filter (·.kind = kind) := by
    have same : new.part kind = new.part kind := rfl
    obtain ⟨first, firstOutcomes⟩ := addAll_of_kind same calls
    obtain ⟨second, secondOutcomes⟩ := addAll_of_kind same others
    rw [first, second, firstOutcomes, secondOutcomes, order kind]
    exact ⟨rfl, rfl⟩
  have set := set_eq_of_parts (run .music).1 (run .sfx).1
  exact
    { outcomes := fun kind => (run kind).2
      tables := by rw [pool, set]; rfl
      songs := by rw [set]
      sfxIdents := by rw [set]
      music := fun memory => by rw [set]; rfl
      symbols := by rw [set]; rfl
      report := ⟨sections_addAll new calls, sections_addAll new others⟩ }

theorem sameResults_song_between :
    let song : Call := ⟨.music, "cave.txt",
      "TITLE \"jump\"\nTRACK 64 6 150 \"\"\nORDER 00 : 00 00 00 00 00\n"⟩
    let jump : Call := ⟨.sfx, "jump.txt", "TITLE \"jump\"\nTRACK 64 1 150 \"\"\n"⟩
    let hit : Call := ⟨.sfx, "hit.txt", "TITLE \"jump\"\n"⟩
    (∀ kind : SourceKind, [jump, song, hit].filter (·.kind = kind)
        = [jump, hit, song].filter (·.kind = kind))
      ∧ SameResults [jump, song, hit] [jump, hit, song] := by
  have order (song jump hit : Call) (music : song.kind = .music) (first : jump.kind = .sfx)
      (second : hit.kind = .sfx) (kind : SourceKind) :
      [jump, song, hit].filter (·.kind = kind) = [jump, hit, song].filter (·.kind = kind) := by
    cases kind <;> simp [music, first, second]
  exact ⟨order _ _ _ rfl rfl rfl, sameResults_of_interleaving (order _ _ _ rfl rfl rfl)⟩

end Batch
end TuneBank
