import Mathlib.Data.List.Forall2
import TuneBank.Proofs.Pool.Linked

/-! Songs packed one after another. Every song of a run without an overflow stays linked, and
nothing is in the tables but the seeds and what the songs asked for, each content once. -/

namespace TuneBank.Pool

open List (Forall₂)

/-- The pool holds the seeds and what these tracks asked for, and nothing else. -/
structure HoldsOnly (q : Pool) (ts : List Track) : Prop where
  seeds : seeded.Grows q
  distinctMacros : (contents q.macros).Nodup
  distinctInstruments : (contents q.instruments).Nodup
  distinctPatterns : (contents q.patterns).Nodup
  macros : ∀ m ∈ contents q.macros,
    m ∈ contents seeded.macros ∨ ∃ t ∈ ts, ∃ kind, m ∈ t.macros.get kind
  instruments : ∀ references ∈ contents q.instruments, ∃ t ∈ ts, ∃ i ∈ t.instruments,
    ∀ kind, content? q.macros (references.get kind).toNat = some (t.macroOf i kind)
  patterns : ∀ bytes ∈ contents q.patterns, ∃ t ∈ ts, ∃ numbers, t.Numbering q numbers
    ∧ ∃ v : Voice, ∃ slot ∈ t.slots v.channel,
      bytes = (Bytecode.encode t numbers v.channel slot).value.bytes

theorem holdsOnly_seeded : seeded.HoldsOnly [] where
  seeds := .refl _
  distinctMacros := by decide
  distinctInstruments := by decide
  distinctPatterns := by decide
  macros _ member := .inl member
  instruments _ member := absurd member List.not_mem_nil
  patterns _ member := absurd member List.not_mem_nil

theorem packSong_pool (p : Pool) (t : Track) : (p.packSong t).1 = { p with
    macros := (internAll p.macros (MacroKind.all.flatMap (kindRequests t))).1
    instruments := (internAll p.instruments
      (instrumentRequests t.title (p.remapMacros t).2 t.instruments)).1
    patterns := (internAll p.patterns
      ((packedSlots t).map (patternRequest t (p.instrumentNumbers t)))).1 } := by
  have pool : (p.packSong t).1 = _ := packPatterns_pool t (p.instrumentNumbers t)
    ((p.remapMacros t).1.remapInstruments t (p.remapMacros t).2).1
  rw [pool, remapInstruments, internInstruments_pool, remapMacros_pool]

theorem HoldsOnly.packSong {q : Pool} {ts : List Track} (h : q.HoldsOnly ts) {t : Track}
    (fits : ∀ e ∈ (q.packSong t).2.errors, ¬ e.isPoolOverflow) :
    (q.packSong t).1.HoldsOnly (ts ++ [t]) := by
  have grown := grows_packSong q t
  have linked := packSong_linked h.seeds fits
  have last : t ∈ ts ++ [t] := List.mem_append_right ts (List.mem_singleton_self t)
  constructor
  case seeds => exact h.seeds.trans grown
  case distinctMacros =>
    rw [packSong_pool]
    exact nodup_internAll h.distinctMacros _
  case distinctInstruments =>
    rw [packSong_pool]
    exact nodup_internAll h.distinctInstruments _
  case distinctPatterns =>
    rw [packSong_pool]
    exact nodup_internAll h.distinctPatterns _
  case macros =>
    intro m member
    rw [packSong_pool, mem_contents_internAll, mem_macroRequests] at member
    rcases member with old | new
    · rcases h.macros m old with seed | ⟨u, there, own⟩
      · exact .inl seed
      · exact .inr ⟨u, List.mem_append_left _ there, own⟩
    · exact .inr ⟨t, last, new⟩
  case instruments =>
    intro references member
    rw [packSong_pool, mem_contents_internAll, instrumentRequests, List.map_map] at member
    rcases member with old | new
    · obtain ⟨u, there, i, own, leads⟩ := h.instruments references old
      exact ⟨u, List.mem_append_left _ there, i, own,
        fun kind => content?_of_prefix grown.macros (leads kind)⟩
    · obtain ⟨i, own, rfl⟩ := List.mem_map.mp new
      refine ⟨t, last, i, own, fun kind => ?_⟩
      have same : (q.packSong t).1.macros = (q.remapMacros t).1.macros := by
        rw [packSong_pool, remapMacros_pool]
      rw [same]
      refine content?_references h.seeds (fun e reported => fits e ?_) own kind
      exact List.mem_append_left _ (List.mem_append_left _ (List.mem_append_left _ reported))
  case patterns =>
    intro bytes member
    rw [packSong_pool, mem_contents_internAll, List.map_map] at member
    rcases member with old | new
    · obtain ⟨u, there, numbers, numbering, own⟩ := h.patterns bytes old
      exact ⟨u, List.mem_append_left _ there, numbers, numbering.grows grown, own⟩
    · obtain ⟨⟨v, slot⟩, job, rfl⟩ := List.mem_map.mp new
      exact ⟨t, last, q.instrumentNumbers t, linked.instruments, v, slot,
        (mem_packedSlots t).mp job, rfl⟩

def packSongs : Pool → List Track → Pool × List (Diagnosed PackError PackedSong)
  | p, [] => (p, [])
  | p, t :: ts =>
    let (p, song) := p.packSong t
    let (p, songs) := packSongs p ts
    (p, song :: songs)

theorem packSongs_cons (p : Pool) (t : Track) (ts : List Track) :
    p.packSongs (t :: ts) = (((p.packSong t).1.packSongs ts).1,
      (p.packSong t).2 :: ((p.packSong t).1.packSongs ts).2) := rfl

theorem grows_packSongs (p : Pool) (ts : List Track) : p.Grows (p.packSongs ts).1 := by
  induction ts generalizing p with
  | nil => exact .refl p
  | cons t ts ih => exact (grows_packSong p t).trans (ih _)

theorem HoldsOnly.packSongs {q : Pool} {before ts : List Track} (h : q.HoldsOnly before)
    (fits : ∀ song ∈ (q.packSongs ts).2, ∀ e ∈ song.errors, ¬ e.isPoolOverflow) :
    (q.packSongs ts).1.HoldsOnly (before ++ ts)
      ∧ Forall₂ (fun t song => ∃ numbers, t.Linked (q.packSongs ts).1 numbers song.value.order)
        ts (q.packSongs ts).2 := by
  induction ts generalizing q before with
  | nil => exact ⟨by rwa [List.append_nil], .nil⟩
  | cons t ts ih =>
    rw [packSongs_cons] at fits ⊢
    have first := fits _ List.mem_cons_self
    obtain ⟨holds, linked⟩ := ih (h.packSong first)
      fun song later => fits song (List.mem_cons_of_mem _ later)
    rw [List.append_assoc] at holds
    exact ⟨holds, .cons ⟨_, (packSong_linked h.seeds first).grows (grows_packSongs _ ts)⟩ linked⟩

variable {q : Pool} {ts : List Track} (h : q.HoldsOnly ts)
include h

theorem HoldsOnly.references_inj {a b : PerKind UInt8} {ms : PerKind Macro}
    (ha : ∀ kind, content? q.macros (a.get kind).toNat = some (ms.get kind))
    (hb : ∀ kind, content? q.macros (b.get kind).toNat = some (ms.get kind)) : a = b :=
  PerKind.ext_get fun kind =>
    UInt8.toNat_inj.mp (content?_inj h.distinctMacros (ha kind) (hb kind))

end TuneBank.Pool
