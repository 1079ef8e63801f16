import TuneBank.Proofs.Pool.Repacking
import TuneBank.Proofs.Stream.Renaming

/-! What is reported of a song, apart from numbers that do not fit a byte. The pool decides the
numbers, and no other report looks at a number but the one about hi-pitch macros; that one asks for
the number of the neutral macro, which no other content can have. So the reports of a song are those
of its track, whatever was packed before it. -/

namespace TuneBank

open List (Forall₂)

/-- The report is about the song and not about the room in the pool. -/
def PackError.isAboutSong (e : PackError) : Bool := !e.isPoolOverflow

theorem filter_indexByte (table : PoolTable) (index : Nat) :
    (indexByte table index).errors.filter PackError.isAboutSong = [] := by
  unfold indexByte
  split_ifs <;> rfl

namespace Track
variable (t : Track)

/-- Reports of instruments, of which the first has the given number, that bend the pitch by more
than the driver can. -/
def hiPitchErrors : Nat → List Instrument → List PackError
  | _, [] => []
  | number, i :: is =>
    (if t.macroOf i .hiPitch = MacroKind.hiPitch.neutral then [] else [.hiPitch number])
      ++ hiPitchErrors (number + 1) is

/-- The loop markers that a channel plays in a slot. -/
def loopsIn (c : Channel) (slot : UInt8) : Nat :=
  Bytecode.countLoops ((t.column c slot).flatMap Cell.effects)

/-- What the track alone says of its song. The streams are those of a pool in which all instruments
have one number. -/
def diagnostics : List PackError :=
  t.hiPitchErrors 0 t.instruments
  ++ ((Pool.packedSlots t).flatMap fun job =>
    (Bytecode.encode t (t.instruments.map fun _ => 0) job.1.channel job.2).errors)
  ++ if ∀ job ∈ Pool.packedSlots t, t.loopsIn job.1.channel job.2 = 0 then [.noLoopPoint] else []

end Track

namespace Pool

/-- The pools that packing songs and adding sound effects leads to. -/
inductive Reachable : Pool → Prop
  | seeded : Reachable seeded
  | packSong {p : Pool} (h : Reachable p) (t : Track) : Reachable (p.packSong t).1
  | pushSfx {p : Pool} (h : Reachable p) (title : String) (sfx : Bytecode.SfxStream) :
    Reachable (p.pushSfx title sfx).1

namespace Reachable
variable {p : Pool} (h : p.Reachable)
include h

theorem grows : Pool.seeded.Grows p := by
  induction h with
  | seeded => exact .refl _
  | packSong _ t ih => exact ih.trans (grows_packSong _ t)
  | pushSfx _ title sfx ih => exact ih.trans (grows_pushSfx _ title sfx)

theorem distinctMacros : (contents p.macros).Nodup := by
  induction h with
  | seeded => decide
  | packSong _ t ih =>
    rw [packSong_pool]
    exact nodup_internAll ih _
  | pushSfx _ _ _ ih => exact ih

theorem resolve_eq_default_iff (t : Track) (i : Instrument) (kind : MacroKind) :
    resolve (p.remapMacros t).2 i kind = defaultMacro kind ↔ t.macroOf i kind = kind.neutral := by
  have leads := content?_resolve (t := t) h.grows i kind
  have seed := content?_defaultMacro (h.grows.trans (grows_remapMacros p t)) kind
  have distinct : (contents (p.remapMacros t).1.macros).Nodup := by
    rw [remapMacros_pool]
    exact nodup_internAll h.distinctMacros _
  constructor
  · intro same
    rw [same, seed] at leads
    exact (Option.some.inj leads).symm
  · intro same
    rw [same] at leads
    exact content?_inj distinct leads seed

theorem filter_slotErrors (t : Track) (i : Instrument) (number : Nat) :
    (MacroKind.all.flatMap (slotErrors (p.remapMacros t).2 i number)).filter
        PackError.isAboutSong
      = if t.macroOf i .hiPitch = MacroKind.hiPitch.neutral then [] else [.hiPitch number] := by
  have hiPitch := h.resolve_eq_default_iff t i .hiPitch
  simp only [MacroKind.all, List.flatMap_cons, List.flatMap_nil, List.filter_append, slotErrors,
    filter_indexByte, reduceCtorEq, false_and, if_false, List.append_nil,
    List.nil_append, true_and, ne_eq, hiPitch, ite_not]
  split_ifs <;> rfl

theorem filter_instrumentErrors (t : Track) (title : String) (q : Pool) (number : Nat)
    (is : List Instrument) :
    (internInstruments title (p.remapMacros t).2 q number is).2.2.filter PackError.isAboutSong
      = t.hiPitchErrors number is := by
  induction is generalizing q number with
  | nil => rfl
  | cons i is ih =>
    rw [internInstruments_cons]
    simp only [List.filter_append, filter_indexByte, List.append_nil, h.filter_slotErrors, ih,
      Track.hiPitchErrors]

end Reachable

theorem length_instrumentBytes (title : String) (map : MacroMap) (p : Pool) (number : Nat)
    (is : List Instrument) :
    (internInstruments title map p number is).2.1.length = is.length := by
  induction is generalizing p number with
  | nil => rfl
  | cons i is ih => exact congrArg (· + 1) (ih _ _)

theorem length_instrumentNumbers (p : Pool) (t : Track) :
    (p.instrumentNumbers t).length = t.instruments.length :=
  length_instrumentBytes ..

theorem errors_encode_of_length (t : Track) {numbers : List UInt8}
    (all : numbers.length = t.instruments.length) (c : Channel) (slot : UInt8) :
    (Bytecode.encode t numbers c slot).errors
      = (Bytecode.encode t (t.instruments.map fun _ => 0) c slot).errors := by
  have related : Forall₂ (fun _ _ => True) numbers (t.instruments.map fun _ => (0 : UInt8)) :=
    List.forall₂_of_length_eq_of_get (by simpa using all) fun _ _ _ => trivial
  exact Bytecode.errors_encode_eq related t c slot

theorem foldl_addSlot_loops_eq_zero_iff (t : Track) (numbers : List UInt8)
    (jobs : List (Voice × UInt8)) (d : PatternDraft) :
    (jobs.foldl (fun d job => PatternDraft.addSlot t numbers job.1 d job.2) d).loops = 0
      ↔ d.loops = 0 ∧ ∀ job ∈ jobs, t.loopsIn job.1.channel job.2 = 0 := by
  induction jobs generalizing d with
  | nil => simp
  | cons job jobs ih =>
    have step : (d.addSlot t numbers job.1 job.2).loops
        = d.loops + t.loopsIn job.1.channel job.2 := rfl
    rw [List.foldl_cons, ih, step, Nat.add_eq_zero_iff, and_assoc, List.forall_mem_cons]

theorem filter_orderErrors (order : List Frame) (map : PatternMap) :
    (remapOrder order map).errors.filter PackError.isAboutSong = [] := by
  simp only [remapOrder, packFrame, List.filter_flatMap, List.flatMap_map, filter_indexByte,
    List.flatMap_eq_nil_iff, implies_true]

theorem exists_errors_packSong (p : Pool) (t : Track) :
    ∃ map : PatternMap, (p.packSong t).2.errors
      = (internInstruments t.title (p.remapMacros t).2 (p.remapMacros t).1 0 t.instruments).2.2
        ++ ((packedSlots t).flatMap fun job =>
          (Bytecode.encode t (p.instrumentNumbers t) job.1.channel job.2).errors)
        ++ (remapOrder t.order map).errors
        ++ if ∀ job ∈ packedSlots t, t.loopsIn job.1.channel job.2 = 0 then [.noLoopPoint]
          else [] := by
  let named := (p.remapMacros t).1.remapInstruments t (p.remapMacros t).2
  let draft := named.1.packPatterns t named.2.1
  have parts : (p.packSong t).2.errors = named.2.2 ++ draft.errors
      ++ (remapOrder t.order draft.map).errors ++ if draft.loops = 0 then [.noLoopPoint] else [] :=
    rfl
  have loops : draft.loops = 0 ↔ ∀ job ∈ packedSlots t, t.loopsIn job.1.channel job.2 = 0 := by
    simp only [draft, packPatterns_eq_foldl, foldl_addSlot_loops_eq_zero_iff, true_and]
  refine ⟨draft.map, ?_⟩
  rw [parts, packPatterns_errors]
  simp only [loops]
  rfl

theorem Reachable.filter_errors_packSong {p : Pool} (h : p.Reachable) (t : Track) :
    (p.packSong t).2.errors.filter PackError.isAboutSong
      = t.diagnostics.filter PackError.isAboutSong := by
  obtain ⟨map, parts⟩ := p.exists_errors_packSong t
  have instruments := h.filter_instrumentErrors t t.title (p.remapMacros t).1 0 t.instruments
  rw [parts, Track.diagnostics, ← instruments]
  simp only [List.filter_append, filter_orderErrors, List.append_nil,
    errors_encode_of_length t (length_instrumentNumbers p t), List.filter_filter, Bool.and_self]

theorem length_order_packSong (p : Pool) (t : Track) :
    (p.packSong t).2.value.order.length = t.order.length := by
  rw [packSong_eq]
  simp [remapOrder]

/-- Where a song stands in a run shows in no report about it, apart from numbers that do not fit,
and not in the length of its order. -/
theorem packSong_reports_of_reachable {p q : Pool} (hp : p.Reachable) (hq : q.Reachable)
    (t : Track) :
    (p.packSong t).2.errors.filter PackError.isAboutSong
        = (q.packSong t).2.errors.filter PackError.isAboutSong
      ∧ (p.packSong t).2.value.order.length = (q.packSong t).2.value.order.length := by
  constructor
  · exact (hp.filter_errors_packSong t).trans (hq.filter_errors_packSong t).symm
  · rw [length_order_packSong, length_order_packSong]

/-- Two instruments with hi-pitch macros, of which the first does nothing, and no loop. -/
def bentNote : Track :=
  { Track.new "bend" with
    patternLength := 2
    macros := ⟨[], [], [], [.noop, ⟨[1, 2], 1⟩], []⟩
    instruments := [⟨"flat", ⟨none, none, none, some 0, none⟩⟩,
      ⟨"bent", ⟨none, none, none, some 1, none⟩⟩]
    order := [⟨0, 0, 0, 0, 0⟩]
    patterns := [⟨[Pattern.emptyRow.set .noise ⟨.release, some 2, none, []⟩]⟩] }

def deepNote : Track := { bentNote with macros := ⟨[], [], [⟨[-1], 0⟩], [], []⟩ }

theorem bentNote_reports :
    seeded.Reachable ∧ (seeded.packSong deepNote).1.Reachable
      ∧ (seeded.remapMacros bentNote).2.hiPitch = [0, 2]
      ∧ ((seeded.packSong deepNote).1.remapMacros bentNote).2.hiPitch = [0, 3]
      ∧ ((seeded.packSong deepNote).1.packSong bentNote).2.errors.filter PackError.isAboutSong
        = [.hiPitch 1, .unknownInstrument ⟨.noise, 0, 0⟩ 2, .release ⟨.noise, 0, 0⟩,
          .noLoopPoint] := by
  have later : (seeded.packSong deepNote).1.Reachable := .packSong .seeded deepNote
  refine ⟨.seeded, later, by decide, by decide, ?_⟩
  rw [(packSong_reports_of_reachable later .seeded bentNote).1]
  decide

end Pool

end TuneBank
