import TuneBank.Proofs.Pool.Requests

/-! A packed song in a pool: its instruments lead to the macros that the author gave them, and its
order leads to the streams of its slots. Pools only grow, so a song stays linked whatever is packed
after it. `packSong_linked` says that packing links a song unless an index overflows. -/

namespace TuneBank

structure Pool.Grows (p q : Pool) : Prop where
  macros : p.macros <+: q.macros
  instruments : p.instruments <+: q.instruments
  patterns : p.patterns <+: q.patterns
  sfx : p.sfx <+: q.sfx

namespace Pool

theorem Grows.refl (p : Pool) : p.Grows p :=
  ⟨List.prefix_refl _, List.prefix_refl _, List.prefix_refl _, List.prefix_refl _⟩

theorem Grows.trans {p q r : Pool} (first : p.Grows q) (second : q.Grows r) : p.Grows r :=
  ⟨first.macros.trans second.macros, first.instruments.trans second.instruments,
    first.patterns.trans second.patterns, first.sfx.trans second.sfx⟩

theorem grows_remapMacros (p : Pool) (track : Track) : p.Grows (p.remapMacros track).1 := by
  rw [remapMacros_pool]
  exact { Grows.refl p with macros := prefix_internAll _ _ }

theorem grows_remapInstruments (p : Pool) (track : Track) (map : MacroMap) :
    p.Grows (p.remapInstruments track map).1 := by
  rw [remapInstruments, internInstruments_pool]
  exact { Grows.refl p with instruments := prefix_internAll _ _ }

theorem grows_packPatterns (p : Pool) (track : Track) (instruments : List UInt8) :
    p.Grows (p.packPatterns track instruments).pool := by
  rw [packPatterns_pool]
  exact { Grows.refl p with patterns := prefix_internAll _ _ }

theorem grows_packSong (p : Pool) (track : Track) : p.Grows (p.packSong track).1 :=
  ((grows_remapMacros p track).trans (grows_remapInstruments _ track _)).trans
    (grows_packPatterns _ track _)

theorem grows_pushSfx (p : Pool) (title : String) (sfx : Bytecode.SfxStream) :
    p.Grows (p.pushSfx title sfx).1 :=
  { Grows.refl p with sfx := List.prefix_append _ _ }

/-- The macros that a byte for an instrument leads to. -/
def meaning? (q : Pool) (instrument : UInt8) : Option (PerKind Macro) :=
  (content? q.instruments instrument.toNat).bind
    (PerKind.traverse? fun byte => content? q.macros byte.toNat)

theorem meaning?_eq_some_iff {q : Pool} {instrument : UInt8} {ms : PerKind Macro} :
    q.meaning? instrument = some ms ↔ ∃ refs, content? q.instruments instrument.toNat = some refs
      ∧ ∀ kind, content? q.macros (refs.get kind).toNat = some (ms.get kind) := by
  simp only [meaning?, Option.bind_eq_some_iff, PerKind.traverse?_eq_some_iff]

theorem Grows.meaning? {p q : Pool} (h : p.Grows q) {instrument : UInt8} {ms : PerKind Macro}
    (here : p.meaning? instrument = some ms) : q.meaning? instrument = some ms := by
  obtain ⟨refs, found, each⟩ := meaning?_eq_some_iff.mp here
  exact meaning?_eq_some_iff.mpr ⟨refs, content?_of_prefix h.instruments found,
    fun kind => content?_of_prefix h.macros (each kind)⟩

end Pool

/-- The macro that plays where an instrument names none. -/
def MacroKind.neutral : MacroKind → Macro
  | .volume => .fullVolume
  | _ => .noop

namespace Track

/-- The macro that an author gives an instrument; one that the track does not define counts as
none. -/
def macroOf (t : Track) (i : Instrument) (kind : MacroKind) : Macro :=
  ((i.macros.get kind).bind fun n => (t.macros.get kind)[n.toNat]?).getD kind.neutral

def macrosOf (t : Track) (i : Instrument) : PerKind Macro := .ofFn (t.macroOf i)

/-- The numbers lead to the macros of the track's instruments, one by one. -/
def Numbering (t : Track) (q : Pool) (numbers : List UInt8) : Prop :=
  numbers.map q.meaning? = t.instruments.map fun i => some (t.macrosOf i)

theorem Numbering.grows {t : Track} {p q : Pool} {numbers : List UInt8} (h : t.Numbering p numbers)
    (grown : p.Grows q) : t.Numbering q numbers :=
  map_eq_map_some_of_imp (fun _ _ => grown.meaning?) h

/-- The pool holds what the driver needs for the track, and these numbers of its instruments and
this order lead there. -/
structure Linked (t : Track) (q : Pool) (numbers : List UInt8) (order : List PackedFrame) :
    Prop where
  macros : ∀ kind, ∀ m ∈ t.macros.get kind, m ∈ contents q.macros
  instruments : t.Numbering q numbers
  patterns : ∀ v : Voice, ∀ slot ∈ t.slots v.channel,
    (Bytecode.encode t numbers v.channel slot).value.bytes ∈ contents q.patterns
  order : ∀ v : Voice, (order.map fun packed => content? q.patterns (packed.get v).toNat)
    = t.order.map fun frame =>
      some (Bytecode.encode t numbers v.channel (frame.get v.channel)).value.bytes

theorem Linked.grows {t : Track} {p q : Pool} {numbers : List UInt8} {order : List PackedFrame}
    (linked : t.Linked p numbers order) (h : p.Grows q) : t.Linked q numbers order where
  macros kind m member := mem_contents_of_prefix h.macros (linked.macros kind m member)
  instruments := linked.instruments.grows h
  patterns v slot member := mem_contents_of_prefix h.patterns (linked.patterns v slot member)
  order v := map_eq_map_some_of_imp (fun _ _ => content?_of_prefix h.patterns) (linked.order v)

instance : Std.LawfulOrderLeftLeaningMax UInt8 where
  max_eq_left a b below := by
    change (if a ≤ b then b else a) = a
    split
    · exact Std.le_antisymm below ‹_›
    · rfl
  max_eq_right a b above := if_pos (Std.le_of_not_ge above)

theorem getElem?_slots {t : Track} {c : Channel} {frame : Frame} (member : frame ∈ t.order) :
    (t.slots c)[(frame.get c).toNat]? = some (frame.get c) := by
  have named : frame.get c ∈ t.order.map (·.get c) := List.mem_map_of_mem member
  cases top : t.maxSlot? c with
  | none => exact absurd (List.max?_eq_none_iff.mp top ▸ named) List.not_mem_nil
  | some high =>
    have below := UInt8.le_iff_toNat_le.mp ((List.max?_eq_some_iff.mp top).2 _ named)
    simp [slots, top, Nat.lt_succ_of_le below]

theorem mem_slots_iff {t : Track} {c : Channel} {slot : UInt8} :
    slot ∈ t.slots c ↔ ∃ frame ∈ t.order, slot ≤ frame.get c := by
  constructor
  · intro member
    cases top : t.maxSlot? c with
    | none => simp [slots, top] at member
    | some high =>
      obtain ⟨frame, there, rfl⟩ := List.mem_map.mp (List.max?_mem top)
      rw [slots, top] at member
      obtain ⟨n, below, rfl⟩ := List.mem_map.mp member
      have inside := Nat.le_of_lt_succ (List.mem_range.mp below)
      refine ⟨frame, there, UInt8.le_iff_toNat_le.mpr ?_⟩
      rwa [UInt8.toNat_ofNat_of_lt' (Nat.lt_of_le_of_lt inside (UInt8.toNat_lt _))]
  · rintro ⟨frame, there, below⟩
    cases top : t.maxSlot? c with
    | none =>
      rw [List.map_eq_nil_iff.mp (List.max?_eq_none_iff.mp top)] at there
      exact absurd there List.not_mem_nil
    | some high =>
      have reached : slot ≤ high :=
        Std.le_trans below ((List.max?_eq_some_iff.mp top).2 _ (List.mem_map_of_mem there))
      rw [slots, top]
      refine List.mem_map.mpr ⟨slot.toNat, List.mem_range.mpr ?_, UInt8.ofNat_toNat⟩
      exact Nat.lt_succ_of_le (UInt8.le_iff_toNat_le.mp reached)

end Track

namespace Pool

theorem content?_defaultMacro {q : Pool} (h : seeded.Grows q) (kind : MacroKind) :
    content? q.macros (defaultMacro kind) = some kind.neutral :=
  content?_of_prefix h.macros (by cases kind <;> rfl)

theorem content?_resolve {p : Pool} {t : Track} (h : seeded.Grows p) (i : Instrument)
    (kind : MacroKind) :
    content? (p.remapMacros t).1.macros (resolve (p.remapMacros t).2 i kind)
      = some (t.macroOf i kind) := by
  have seeds := content?_defaultMacro (h.trans (grows_remapMacros p t)) kind
  unfold resolve Track.macroOf
  cases i.macros.get kind with
  | none => exact seeds
  | some n =>
    have same := congrArg (·[n.toNat]?) (remapMacros_map p t kind)
    simp only [List.getElem?_map] at same
    rw [Option.bind_some, Option.bind_some]
    cases there : (t.macros.get kind)[n.toNat]? with
    | none =>
      rw [there, Option.map_none, Option.map_eq_none_iff] at same
      rw [same]
      exact seeds
    | some m =>
      rw [there, Option.map_some, Option.map_eq_some_iff] at same
      obtain ⟨index, found, leads⟩ := same
      rw [found]
      exact leads

theorem content?_references {p : Pool} {t : Track} (h : seeded.Grows p)
    (fits : ∀ e ∈ ((p.remapMacros t).1.remapInstruments t (p.remapMacros t).2).2.2,
      ¬ e.isPoolOverflow) {i : Instrument} (member : i ∈ t.instruments) (kind : MacroKind) :
    content? (p.remapMacros t).1.macros ((references (p.remapMacros t).2 i).get kind).toNat
      = some (t.macroOf i kind) := by
  rw [references, PerKind.get_ofFn, toNat_indexByte (resolve_lt_of_fits fits member kind),
    content?_resolve h]

/-- The bytes that stand for the track's instruments when the track is packed. -/
def instrumentNumbers (p : Pool) (t : Track) : List UInt8 :=
  ((p.remapMacros t).1.remapInstruments t (p.remapMacros t).2).2.1

theorem numbering_instrumentNumbers {p : Pool} {t : Track} (h : seeded.Grows p)
    (fits : ∀ e ∈ ((p.remapMacros t).1.remapInstruments t (p.remapMacros t).2).2.2,
      ¬ e.isPoolOverflow) :
    t.Numbering ((p.remapMacros t).1.remapInstruments t (p.remapMacros t).2).1
      (p.instrumentNumbers t) := by
  let out := (p.remapMacros t).1.remapInstruments t (p.remapMacros t).2
  have leads : out.2.1.map (fun b => content? out.1.instruments b.toNat)
      = t.instruments.map fun i => some (references (p.remapMacros t).2 i) := by
    rw [← internInstruments_map fits, List.map_map]
    rfl
  have kept : out.1.macros = (p.remapMacros t).1.macros := by
    simp only [out, remapInstruments, internInstruments_pool]
  have each : ∀ i ∈ t.instruments, (references (p.remapMacros t).2 i).traverse?
      (fun byte => content? out.1.macros byte.toNat) = some (t.macrosOf i) := by
    intro i member
    refine PerKind.traverse?_eq_some_iff.mpr fun kind => ?_
    rw [kept, content?_references h fits member, Track.macrosOf, PerKind.get_ofFn]
  calc out.2.1.map out.1.meaning?
      = (out.2.1.map fun b => content? out.1.instruments b.toNat).map
          (·.bind (PerKind.traverse? fun byte => content? out.1.macros byte.toNat)) := by
        rw [List.map_map]
        rfl
    _ = t.instruments.map fun i => some (t.macrosOf i) := by
        rw [leads, List.map_map]
        exact List.map_congr_left each

theorem content?_remapOrder {t : Track} {p : Pool} {numbers : List UInt8}
    (fits : ∀ e ∈ (remapOrder t.order (p.packPatterns t numbers).map).errors, ¬ e.isPoolOverflow)
    (v : Voice) :
    ((remapOrder t.order (p.packPatterns t numbers).map).value.map fun packed =>
        content? (p.packPatterns t numbers).pool.patterns (packed.get v).toNat)
      = t.order.map fun frame =>
        some (Bytecode.encode t numbers v.channel (frame.get v.channel)).value.bytes := by
  rw [remapOrder, List.map_map, List.map_map]
  refine List.map_congr_left fun frame member => ?_
  have small : frameIndex (p.packPatterns t numbers).map frame v < 256 := by
    refine lt_of_indexByte .patterns fun e reported => fits e ?_
    refine List.mem_flatMap.mpr ⟨_, List.mem_map_of_mem member, ?_⟩
    refine List.mem_flatMap.mpr ⟨v, ?_, reported⟩
    cases v <;> decide
  have slot := congrArg (·[(frame.get v.channel).toNat]?) (packPatterns_map t numbers p v)
  simp only [List.getElem?_map, Track.getElem?_slots member, Option.map_some,
    Option.map_eq_some_iff] at slot
  obtain ⟨index, found, leads⟩ := slot
  simp only [Function.comp_def, packFrame, PerVoice.get_ofFn, toNat_indexByte small]
  rw [frameIndex, found]
  exact leads

theorem packSong_linked {p : Pool} {t : Track} (h : seeded.Grows p)
    (fits : ∀ e ∈ (p.packSong t).2.errors, ¬ e.isPoolOverflow) :
    t.Linked (p.packSong t).1 (p.instrumentNumbers t) (p.packSong t).2.value.order where
  macros kind m member := by
    have grown := (grows_remapInstruments (p.remapMacros t).1 t (p.remapMacros t).2).trans
      (grows_packPatterns _ t (p.instrumentNumbers t))
    refine mem_contents_of_prefix grown.macros ?_
    rw [remapMacros_pool]
    exact (mem_contents_internAll _ _).mpr (Or.inr (mem_macroRequests.mpr ⟨kind, member⟩))
  instruments := by
    refine (numbering_instrumentNumbers h fun e member => fits e ?_).grows
      (grows_packPatterns _ t _)
    exact List.mem_append_left _ (List.mem_append_left _ (List.mem_append_left _ member))
  patterns v slot member := by
    have pool : (p.packSong t).1 = _ := packPatterns_pool t (p.instrumentNumbers t) _
    rw [pool]
    refine (mem_contents_internAll _ _).mpr (Or.inr ?_)
    rw [List.map_map]
    exact List.mem_map.mpr ⟨(v, slot), (mem_packedSlots t).mpr member, rfl⟩
  order v := content?_remapOrder
    (fun e member => fits e (List.mem_append_left _ (List.mem_append_right _ member))) v

theorem encode_clean_of_packSong {p : Pool} {t : Track} (clean : (p.packSong t).2.errors = [])
    {v : Voice} {slot : UInt8} (member : slot ∈ t.slots v.channel) :
    (Bytecode.encode t (p.instrumentNumbers t) v.channel slot).errors = [] := by
  have patterns := (List.append_eq_nil_iff.mp
    (List.append_eq_nil_iff.mp (List.append_eq_nil_iff.mp clean).1).1).2
  rw [packPatterns_errors, List.flatMap_eq_nil_iff] at patterns
  exact patterns (v, slot) ((mem_packedSlots t).mpr member)

end Pool

end TuneBank
