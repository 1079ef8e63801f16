import TuneBank.Proofs.Pool.Interning
import TuneBank.Song

/-! What packing a song asks of the pool. Each stage is one run of requests to one table: the
macros kind by kind, the instruments by the macros that they resolve to, and the streams of the
slots voice by voice. The numbers that a stage hands on lead to the contents requested. -/

namespace TuneBank

def PackError.isPoolOverflow : PackError → Bool
  | poolOverflow _ _ => true
  | _ => false

theorem lt_of_indexByte (table : PoolTable) {index : Nat}
    (fits : ∀ e ∈ (indexByte table index).errors, ¬ e.isPoolOverflow) : index < 256 := by
  refine Decidable.byContradiction fun high => fits (.poolOverflow table index) ?_ rfl
  rw [indexByte, if_neg high]
  exact List.mem_singleton_self _

theorem toNat_indexByte {table : PoolTable} {index : Nat} (small : index < 256) :
    (indexByte table index).value.toNat = index :=
  UInt8.toNat_ofNat_of_lt' small

namespace Pool

/-! Macros -/

def macroRequests (title : String) (kind : MacroKind) :
    Nat → List Macro → List (Macro × MacroOrigin)
  | _, [] => []
  | i, m :: ms => (m, .track title kind i) :: macroRequests title kind (i + 1) ms

@[simp] theorem map_fst_macroRequests (title : String) (kind : MacroKind) (i : Nat)
    (ms : List Macro) : (macroRequests title kind i ms).map Prod.fst = ms := by
  induction ms generalizing i with
  | nil => rfl
  | cons m ms ih => rw [macroRequests, List.map_cons, ih]

theorem internMacros_eq (title : String) (kind : MacroKind) (p : Pool) (i : Nat)
    (ms : List Macro) :
    internMacros title kind p i ms =
      ({ p with macros := (internAll p.macros (macroRequests title kind i ms)).1 },
        (internAll p.macros (macroRequests title kind i ms)).2.map Interned.index) := by
  induction ms generalizing p i with
  | nil => rfl
  | cons m ms ih =>
    have step : internMacros title kind p i (m :: ms) =
        ((internMacros title kind (p.internMacro m (.track title kind i)).1 (i + 1) ms).1,
          (p.internMacro m (.track title kind i)).2.index
            :: (internMacros title kind (p.internMacro m (.track title kind i)).1 (i + 1) ms).2) :=
      rfl
    rw [step, ih]
    rfl

def kindRequests (track : Track) (kind : MacroKind) : List (Macro × MacroOrigin) :=
  macroRequests track.title kind 0 (track.macros.get kind)

def remapKind (track : Track) : Pool × MacroMap → MacroKind → Pool × MacroMap
  | (p, map), kind =>
    let (p, indices) := internMacros track.title kind p 0 (track.macros.get kind)
    (p, map.set kind indices)

theorem remapKind_eq (track : Track) (s : Pool × MacroMap) (kind : MacroKind) :
    remapKind track s kind =
      ({ s.1 with macros := (internAll s.1.macros (kindRequests track kind)).1 },
        s.2.set kind ((internAll s.1.macros (kindRequests track kind)).2.map Interned.index)) := by
  have step : remapKind track s kind =
      ((internMacros track.title kind s.1 0 (track.macros.get kind)).1,
        s.2.set kind (internMacros track.title kind s.1 0 (track.macros.get kind)).2) := rfl
  rw [step, internMacros_eq]
  rfl

theorem foldl_remapKind_pool (track : Track) (kinds : List MacroKind) (s : Pool × MacroMap) :
    (kinds.foldl (remapKind track) s).1 =
      { s.1 with macros := (internAll s.1.macros (kinds.flatMap (kindRequests track))).1 } := by
  induction kinds generalizing s with
  | nil => rfl
  | cons kind kinds ih =>
    rw [List.foldl_cons, ih, remapKind_eq, List.flatMap_cons, internAll_append]

theorem foldl_remapKind_map (track : Track) (kinds : List MacroKind) (distinct : kinds.Nodup)
    (s : Pool × MacroMap) :
    (∀ kind ∈ kinds, ((kinds.foldl (remapKind track) s).2.get kind).map
          (content? (kinds.foldl (remapKind track) s).1.macros)
        = (track.macros.get kind).map some)
      ∧ ∀ kind ∉ kinds, (kinds.foldl (remapKind track) s).2.get kind = s.2.get kind := by
  induction kinds generalizing s with
  | nil => exact ⟨fun _ h => absurd h List.not_mem_nil, fun _ _ => rfl⟩
  | cons first kinds ih =>
    obtain ⟨fresh, distinct⟩ := List.nodup_cons.mp distinct
    obtain ⟨mapped, kept⟩ := ih distinct (remapKind track s first)
    rw [List.foldl_cons]
    refine ⟨fun kind member => ?_, fun kind other => ?_⟩
    · rcases List.mem_cons.mp member with rfl | later
      · rw [kept kind fresh, foldl_remapKind_pool, remapKind_eq, PerKind.get_set, if_pos rfl]
        refine map_eq_map_some_of_imp (fun _ _ => content?_of_prefix (prefix_internAll _ _)) ?_
        rw [content?_internAll, kindRequests, map_fst_macroRequests]
      · exact mapped kind later
    · rw [List.mem_cons, not_or] at other
      rw [kept kind other.2, remapKind_eq, PerKind.get_set, if_neg other.1]

theorem remapMacros_pool (p : Pool) (track : Track) : (p.remapMacros track).1 = { p with
    macros := (internAll p.macros (MacroKind.all.flatMap (kindRequests track))).1 } :=
  foldl_remapKind_pool track MacroKind.all _

theorem remapMacros_map (p : Pool) (track : Track) (kind : MacroKind) :
    ((p.remapMacros track).2.get kind).map (content? (p.remapMacros track).1.macros)
      = (track.macros.get kind).map some :=
  (foldl_remapKind_map track MacroKind.all (by decide) _).1 kind (MacroKind.mem_all kind)

theorem mem_macroRequests {track : Track} {m : Macro} :
    m ∈ (MacroKind.all.flatMap (kindRequests track)).map Prod.fst
      ↔ ∃ kind, m ∈ track.macros.get kind := by
  simp only [List.map_flatMap, List.mem_flatMap, kindRequests, map_fst_macroRequests,
    MacroKind.mem_all, true_and]

/-! Instruments -/

def references (map : MacroMap) (i : Instrument) : PerKind UInt8 :=
  .ofFn fun kind => (indexByte .macros (resolve map i kind)).value

def instrumentRequests (title : String) (map : MacroMap) (is : List Instrument) :
    List (PerKind UInt8 × InstrumentOrigin) :=
  is.map fun i => (references map i, ⟨title, i.name⟩)

theorem internInstruments_cons (title : String) (map : MacroMap) (p : Pool) (number : Nat)
    (i : Instrument) (is : List Instrument) :
    internInstruments title map p number (i :: is) =
      let first := intern p.instruments (references map i) ⟨title, i.name⟩
      let rest := internInstruments title map { p with instruments := first.1 } (number + 1) is
      (rest.1, (indexByte .instruments first.2.index).value :: rest.2.1,
        MacroKind.all.flatMap (slotErrors map i number)
          ++ (indexByte .instruments first.2.index).errors ++ rest.2.2) := rfl

theorem internInstruments_pool (title : String) (map : MacroMap) (p : Pool) (number : Nat)
    (is : List Instrument) :
    (internInstruments title map p number is).1 = { p with
      instruments := (internAll p.instruments (instrumentRequests title map is)).1 } := by
  induction is generalizing p number with
  | nil => rfl
  | cons i is ih => exact ih _ _

theorem internInstruments_bytes (title : String) (map : MacroMap) (p : Pool) (number : Nat)
    (is : List Instrument) :
    (internInstruments title map p number is).2.1 =
      (internAll p.instruments (instrumentRequests title map is)).2.map
        fun interned => (indexByte .instruments interned.index).value := by
  induction is generalizing p number with
  | nil => rfl
  | cons i is ih => exact congrArg (_ :: ·) (ih _ _)

theorem resolve_lt_of_fits {title : String} {map : MacroMap} {p : Pool} {number : Nat}
    {is : List Instrument}
    (fits : ∀ e ∈ (internInstruments title map p number is).2.2, ¬ e.isPoolOverflow)
    {i : Instrument} (member : i ∈ is) (kind : MacroKind) : resolve map i kind < 256 := by
  induction is generalizing p number with
  | nil => exact absurd member List.not_mem_nil
  | cons first is ih =>
    rw [internInstruments_cons] at fits
    rcases List.mem_cons.mp member with rfl | later
    · refine lt_of_indexByte .macros fun e reported => fits e ?_
      refine List.mem_append_left _ (List.mem_append_left _ (List.mem_flatMap.mpr ?_))
      exact ⟨kind, MacroKind.mem_all kind, List.mem_append_right _ reported⟩
    · exact ih (fun e reported => fits e (List.mem_append_right _ reported)) later

theorem index_lt_of_fits {title : String} {map : MacroMap} {p : Pool} {number : Nat}
    {is : List Instrument}
    (fits : ∀ e ∈ (internInstruments title map p number is).2.2, ¬ e.isPoolOverflow)
    {interned : Interned}
    (member : interned ∈ (internAll p.instruments (instrumentRequests title map is)).2) :
    interned.index < 256 := by
  induction is generalizing p number with
  | nil => exact absurd member List.not_mem_nil
  | cons first is ih =>
    rw [internInstruments_cons] at fits
    rw [instrumentRequests, List.map_cons, internAll_cons] at member
    rcases List.mem_cons.mp member with rfl | later
    · exact lt_of_indexByte .instruments fun e reported =>
        fits e (List.mem_append_left _ (List.mem_append_right _ reported))
    · exact ih (fun e reported => fits e (List.mem_append_right _ reported)) later

theorem internInstruments_map {title : String} {map : MacroMap} {p : Pool} {number : Nat}
    {is : List Instrument}
    (fits : ∀ e ∈ (internInstruments title map p number is).2.2, ¬ e.isPoolOverflow) :
    ((internInstruments title map p number is).2.1.map UInt8.toNat).map
        (content? (internInstruments title map p number is).1.instruments)
      = is.map fun i => some (references map i) := by
  have numbers : (internInstruments title map p number is).2.1.map UInt8.toNat =
      (internAll p.instruments (instrumentRequests title map is)).2.map Interned.index := by
    rw [internInstruments_bytes, List.map_map]
    exact List.map_congr_left fun _ member => toNat_indexByte (index_lt_of_fits fits member)
  rw [numbers, internInstruments_pool, content?_internAll, instrumentRequests, List.map_map,
    List.map_map]
  rfl

/-! Patterns -/

/-- The slots of a track in the order in which they are packed. -/
def packedSlots (track : Track) : List (Voice × UInt8) :=
  Voice.all.flatMap fun v => (track.slots v.channel).map fun slot => (v, slot)

def patternRequest (track : Track) (instruments : List UInt8) (job : Voice × UInt8) :
    List UInt8 × PatternOrigin :=
  ((Bytecode.encode track instruments job.1.channel job.2).value.bytes,
    ⟨track.title, job.1.channel, job.2⟩)

theorem packPatterns_eq_foldl (p : Pool) (track : Track) (instruments : List UInt8) :
    p.packPatterns track instruments =
      (packedSlots track).foldl
        (fun d job => PatternDraft.addSlot track instruments job.1 d job.2)
        ⟨p, ⟨[], [], [], []⟩, [], [], 0⟩ := by
  rw [packedSlots, List.foldl_flatMap]
  simp only [List.foldl_map]
  rfl

variable (track : Track) (instruments : List UInt8) (jobs : List (Voice × UInt8))
  (d : PatternDraft)

theorem foldl_addSlot_pool :
    (jobs.foldl (fun d job => PatternDraft.addSlot track instruments job.1 d job.2) d).pool =
      { d.pool with
        patterns :=
          (internAll d.pool.patterns (jobs.map (patternRequest track instruments))).1 } := by
  induction jobs generalizing d with
  | nil => rfl
  | cons job jobs ih =>
    rw [List.foldl_cons, ih]
    rfl

theorem foldl_addSlot_errors :
    (jobs.foldl (fun d job => PatternDraft.addSlot track instruments job.1 d job.2) d).errors =
      d.errors ++ jobs.flatMap fun job =>
        (Bytecode.encode track instruments job.1.channel job.2).errors := by
  induction jobs generalizing d with
  | nil => exact (List.append_nil _).symm
  | cons job jobs ih =>
    rw [List.foldl_cons, ih, List.flatMap_cons, ← List.append_assoc]
    rfl

theorem addSlot_map (job : Voice × UInt8) (v : Voice) :
    (PatternDraft.addSlot track instruments job.1 d job.2).map.get v =
      if v = job.1 then d.map.get job.1 ++ [(intern d.pool.patterns
        (patternRequest track instruments job).1 (patternRequest track instruments job).2).2.index]
      else d.map.get v :=
  PerVoice.get_set _ _ _ _

theorem foldl_addSlot_map (v : Voice) :
    let after := jobs.foldl (fun d job => PatternDraft.addSlot track instruments job.1 d job.2) d
    (after.map.get v).map (content? after.pool.patterns) =
      (d.map.get v).map (content? after.pool.patterns) ++ (jobs.filter (·.1 = v)).map
        fun job => some (patternRequest track instruments job).1 := by
  induction jobs generalizing d with
  | nil => exact (List.append_nil _).symm
  | cons job jobs ih =>
    let next := PatternDraft.addSlot track instruments job.1 d job.2
    intro after
    have grown : next.pool.patterns <+: after.pool.patterns := by
      have pool : after.pool = _ := foldl_addSlot_pool track instruments jobs next
      rw [pool]
      exact prefix_internAll _ _
    have number := content?_of_prefix grown (content_intern d.pool.patterns
      (patternRequest track instruments job).1 (patternRequest track instruments job).2)
    refine (ih next).trans ?_
    rw [addSlot_map, List.filter_cons]
    by_cases own : job.1 = v
    · rw [if_pos own.symm, if_pos (decide_eq_true own), List.map_append, List.append_assoc, own]
      exact congrArg (_ ++ · :: _) number
    · rw [if_neg (Ne.symm own), if_neg (by simpa using own)]
      rfl

theorem packPatterns_pool (p : Pool) : (p.packPatterns track instruments).pool = { p with
    patterns := (internAll p.patterns
      ((packedSlots track).map (patternRequest track instruments))).1 } := by
  rw [packPatterns_eq_foldl, foldl_addSlot_pool]

theorem packPatterns_errors (p : Pool) : (p.packPatterns track instruments).errors =
    (packedSlots track).flatMap fun job =>
      (Bytecode.encode track instruments job.1.channel job.2).errors := by
  rw [packPatterns_eq_foldl, foldl_addSlot_errors]
  rfl

theorem filter_packedSlots (v : Voice) :
    (packedSlots track).filter (·.1 = v) = (track.slots v.channel).map fun slot => (v, slot) := by
  have own (w : Voice) : ((track.slots w.channel).map fun slot => (w, slot)).filter (·.1 = v)
      = if w = v then (track.slots w.channel).map fun slot => (w, slot) else [] := by
    rw [List.filter_map]
    by_cases same : w = v
    · rw [if_pos same, List.filter_eq_self.mpr (by simp [same])]
    · rw [if_neg same, List.filter_eq_nil_iff.mpr (by simp [same]), List.map_nil]
  rw [packedSlots, List.filter_flatMap]
  simp only [own, Voice.all, List.flatMap_cons, List.flatMap_nil]
  cases v <;> simp

theorem packPatterns_map (p : Pool) (v : Voice) :
    ((p.packPatterns track instruments).map.get v).map
        (content? (p.packPatterns track instruments).pool.patterns)
      = (track.slots v.channel).map fun slot =>
        some (Bytecode.encode track instruments v.channel slot).value.bytes := by
  rw [packPatterns_eq_foldl, foldl_addSlot_map, filter_packedSlots, List.map_map]
  cases v <;> rfl

theorem mem_packedSlots {v : Voice} {slot : UInt8} :
    (v, slot) ∈ packedSlots track ↔ slot ∈ track.slots v.channel := by
  have every : v ∈ Voice.all := by cases v <;> decide
  simp [packedSlots, every]

end Pool

end TuneBank
