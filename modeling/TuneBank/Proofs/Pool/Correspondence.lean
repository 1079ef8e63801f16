import Mathlib.Algebra.BigOperators.Fin
import TuneBank.Proofs.Pool.Runs
import TuneBank.Proofs.Stream.Renaming
import TuneBank.Sizes

/-! The same songs packed in two orders. The tables of the two runs hold the same things under other
numbers: macros correspond by content, instruments by the macros that they lead to, and patterns by
their tokens up to the numbers of the instruments. No size depends on the order. -/

namespace TuneBank

open List (Forall₂)
open Bytecode

section
variable {κ ω : Type} {table : List (Entry κ ω)}

def entry (table : List (Entry κ ω)) (i : Fin table.length) : κ := table[i].content

theorem content?_eq_some_iff {i : Nat} {c : κ} :
    content? table i = some c ↔ ∃ h : i < table.length, entry table ⟨i, h⟩ = c := by
  rw [content?, Option.map_eq_some_iff]
  constructor
  · rintro ⟨e, found, rfl⟩
    obtain ⟨bound, rfl⟩ := List.getElem?_eq_some_iff.mp found
    exact ⟨bound, rfl⟩
  · rintro ⟨bound, rfl⟩
    exact ⟨_, List.getElem?_eq_getElem bound, rfl⟩

theorem entry_injective (distinct : (contents table).Nodup) : Function.Injective (entry table) :=
  fun i j same => Fin.ext (content?_inj distinct
    (content?_eq_some_iff.mpr ⟨i.isLt, same⟩) (content?_eq_some_iff.mpr ⟨j.isLt, rfl⟩))

theorem entry_mem (i : Fin table.length) : entry table i ∈ contents table :=
  List.mem_map_of_mem (List.getElem_mem i.isLt)

theorem exists_entry {c : κ} (h : c ∈ contents table) : ∃ i, entry table i = c := by
  obtain ⟨i, bound, rfl⟩ := List.mem_iff_getElem.mp h
  exact ⟨⟨i, by simpa using bound⟩, by simp [contents, entry]⟩

end

theorem exists_equiv {ι κ α β : Type} {x : ι → α} {y : κ → β} {R : α → β → Prop}
    (hx : Function.Injective x) (hy : Function.Injective y) (unique : Relator.BiUnique R)
    (total : ∀ i, ∃ j, R (x i) (y j)) (onto : ∀ j, ∃ i, R (x i) (y j)) :
    ∃ e : ι ≃ κ, ∀ i j, R (x i) (y j) ↔ e i = j := by
  choose forth related using total
  choose back related' using onto
  refine ⟨⟨forth, back, fun i => ?_, fun j => ?_⟩, fun i j => ⟨fun h => ?_, ?_⟩⟩
  · exact hx (unique.1 (related' (forth i)) (related i))
  · exact hy (unique.2 (related (back j)) (related' j))
  · exact hy (unique.2 (related i) h)
  · rintro rfl
    exact related i

/-- The bytes stand for numbers that correspond. -/
def Links {n m : Nat} (e : Fin n ≃ Fin m) (a b : UInt8) : Prop :=
  ∃ h : a.toNat < n, (e ⟨a.toNat, h⟩).val = b.toNat

theorem links_biUnique {n m : Nat} (e : Fin n ≃ Fin m) : Relator.BiUnique (Links e) := by
  constructor
  · rintro a b c ⟨ha, first⟩ ⟨hb, second⟩
    have same := e.injective (Fin.ext (first.trans second.symm))
    exact UInt8.toNat_inj.mp (Fin.mk.inj same)
  · rintro a b c ⟨_, first⟩ ⟨_, second⟩
    exact UInt8.toNat_inj.mp (first.symm.trans second)

theorem links_of_content? {κ ω κ' ω' : Type} {table : List (Entry κ ω)}
    {table' : List (Entry κ' ω')} {R : κ → κ' → Prop} {e : Fin table.length ≃ Fin table'.length}
    (spec : ∀ i j, R (entry table i) (entry table' j) ↔ e i = j) {a b : UInt8} {c : κ} {d : κ'}
    (ha : content? table a.toNat = some c) (hb : content? table' b.toNat = some d)
    (related : R c d) : Links e a b := by
  obtain ⟨bound, rfl⟩ := content?_eq_some_iff.mp ha
  obtain ⟨bound', rfl⟩ := content?_eq_some_iff.mp hb
  exact ⟨bound, congrArg Fin.val ((spec _ _).mp related)⟩

theorem forall₂_of_map_eq {α β γ δ ε : Type} {f : α → Option δ} {g : β → Option ε} {as : List α}
    {bs : List β} {cs : List γ} {u : γ → δ} {w : γ → ε} (hf : as.map f = cs.map fun c => some (u c))
    (hg : bs.map g = cs.map fun c => some (w c)) :
    Forall₂ (fun a b => ∃ c ∈ cs, f a = some (u c) ∧ g b = some (w c)) as bs := by
  induction cs generalizing as bs with
  | nil =>
    rw [List.map_eq_nil_iff.mp hf, List.map_eq_nil_iff.mp hg]
    exact .nil
  | cons c cs ih =>
    obtain ⟨a, as, rfl, here, later⟩ := List.map_eq_cons_iff.mp hf
    obtain ⟨b, bs, rfl, here', later'⟩ := List.map_eq_cons_iff.mp hg
    refine .cons ⟨c, List.mem_cons_self, here, here'⟩ ((ih later later').imp fun x y => ?_)
    exact fun ⟨d, member, found⟩ => ⟨d, List.mem_cons_of_mem c member, found⟩

namespace Pool

def SameMacros (p q : Pool) (x y : PerKind UInt8) : Prop :=
  ∃ ms : PerKind Macro, (∀ kind, content? p.macros (x.get kind).toNat = some (ms.get kind))
    ∧ ∀ kind, content? q.macros (y.get kind).toNat = some (ms.get kind)

/-- Streams that differ only in the numbers of their instruments. -/
def SameStream {n m : Nat} (e : Fin n ≃ Fin m) (x y : List UInt8) : Prop :=
  ∃ ts us, Token.Writes ts x ∧ Token.Writes us y ∧ Forall₂ (Token.Matches (Links e)) ts us

theorem sameStream_biUnique {n m : Nat} (e : Fin n ≃ Fin m) : Relator.BiUnique (SameStream e) := by
  obtain ⟨left, right⟩ := links_biUnique e
  constructor
  · rintro x x' y ⟨ts, us, hts, hus, first⟩ ⟨ts', us', hts', hus', second⟩
    obtain rfl := hus.unique hus'
    obtain rfl := (Token.matches_leftUnique left).forall₂ first second
    exact hts.bytes.symm.trans hts'.bytes
  · rintro x y y' ⟨ts, us, hts, hus, first⟩ ⟨ts', us', hts', hus', second⟩
    obtain rfl := hts.unique hts'
    obtain rfl := (Token.matches_rightUnique right).forall₂ first second
    exact hus.bytes.symm.trans hus'.bytes

/-- The tables of two pools hold the same things under other numbers. -/
structure Correspondence (p q : Pool) where
  macros : Fin p.macros.length ≃ Fin q.macros.length
  instruments : Fin p.instruments.length ≃ Fin q.instruments.length
  patterns : Fin p.patterns.length ≃ Fin q.patterns.length
  macro_eq : ∀ i, entry q.macros (macros i) = entry p.macros i
  seeds : ∀ i < 2, ∃ h, (macros ⟨i, h⟩).val = i
  references : ∀ i kind, Links macros ((entry p.instruments i).get kind)
    ((entry q.instruments (instruments i)).get kind)
  streams : ∀ i, SameStream instruments (entry p.patterns i) (entry q.patterns (patterns i))

/-- The patterns of two packed orders correspond frame by frame. -/
def Correspondence.SameOrder {p q : Pool} (c : p.Correspondence q)
    (order order' : List PackedFrame) : Prop :=
  ∀ v, Forall₂ (fun a b : PackedFrame => Links c.patterns (a.get v) (b.get v)) order order'

/-- Every track is linked to the pool by some numbers of its instruments. -/
def LinksAll (q : Pool) (ts : List Track) : Prop :=
  ∀ t ∈ ts, ∃ numbers order, t.Linked q numbers order

section
variable {p q : Pool} {ts : List Track} (holds : p.HoldsOnly ts) (seeds : seeded.Grows q)
  (linked : q.LinksAll ts)
include holds linked

include seeds in
theorem HoldsOnly.macros_covered {m : Macro} (member : m ∈ contents p.macros) :
    m ∈ contents q.macros := by
  rcases holds.macros m member with seed | ⟨t, there, kind, own⟩
  · exact mem_contents_of_prefix seeds.macros seed
  · obtain ⟨numbers, order, link⟩ := linked t there
    exact link.macros kind m own

theorem HoldsOnly.instruments_covered {x : PerKind UInt8} (member : x ∈ contents p.instruments) :
    ∃ y ∈ contents q.instruments, SameMacros p q x y := by
  obtain ⟨t, there, i, own, leads⟩ := holds.instruments x member
  obtain ⟨numbers, order, link⟩ := linked t there
  have found : some (t.macrosOf i) ∈ numbers.map q.meaning? := by
    rw [link.instruments]
    exact List.mem_map_of_mem own
  obtain ⟨number, -, meaning⟩ := List.mem_map.mp found
  obtain ⟨y, here, each⟩ := meaning?_eq_some_iff.mp meaning
  refine ⟨y, mem_contents_of_content? here, t.macrosOf i, fun kind => ?_, each⟩
  rw [leads kind, Track.macrosOf, PerKind.get_ofFn]

end

theorem SameMacros.symm {p q : Pool} {x y : PerKind UInt8} (h : SameMacros p q x y) :
    SameMacros q p y x :=
  let ⟨ms, hx, hy⟩ := h
  ⟨ms, hy, hx⟩

section
variable {p q : Pool} {ts us : List Track} (hp : p.HoldsOnly ts) (hq : q.HoldsOnly us)
include hp hq

theorem sameMacros_biUnique : Relator.BiUnique (SameMacros p q) := by
  constructor
  · rintro x x' y ⟨ms, hx, hy⟩ ⟨ms', hx', hy'⟩
    have same : ms = ms' := PerKind.ext_get fun kind =>
      Option.some.inj ((hy kind).symm.trans (hy' kind))
    exact hp.references_inj hx (same ▸ hx')
  · rintro x y y' ⟨ms, hx, hy⟩ ⟨ms', hx', hy'⟩
    have same : ms = ms' := PerKind.ext_get fun kind =>
      Option.some.inj ((hx kind).symm.trans (hx' kind))
    exact hq.references_inj hy (same ▸ hy')

variable (same : ∀ t, t ∈ ts ↔ t ∈ us) (lp : p.LinksAll ts) (lq : q.LinksAll us)
include same lp lq

theorem exists_equiv_macros :
    ∃ e : Fin p.macros.length ≃ Fin q.macros.length,
      ∀ i j, entry p.macros i = entry q.macros j ↔ e i = j := by
  refine exists_equiv (entry_injective hp.distinctMacros) (entry_injective hq.distinctMacros)
    (R := Eq) ⟨fun _ _ _ first second => first.trans second.symm,
      fun _ _ _ first second => first.symm.trans second⟩ (fun i => ?_) fun j => ?_
  · have covered := hp.macros_covered hq.seeds (fun t there => lq t ((same t).mp there))
      (entry_mem i)
    obtain ⟨j, here⟩ := exists_entry covered
    exact ⟨j, here.symm⟩
  · exact exists_entry
      (hq.macros_covered hp.seeds (fun t there => lp t ((same t).mpr there)) (entry_mem j))

theorem exists_equiv_instruments :
    ∃ e : Fin p.instruments.length ≃ Fin q.instruments.length,
      ∀ i j, SameMacros p q (entry p.instruments i) (entry q.instruments j) ↔ e i = j := by
  refine exists_equiv (entry_injective hp.distinctInstruments)
    (entry_injective hq.distinctInstruments) (sameMacros_biUnique hp hq) (fun i => ?_) fun j => ?_
  · obtain ⟨y, there, covered⟩ := hp.instruments_covered
      (fun t member => lq t ((same t).mp member)) (entry_mem i)
    obtain ⟨j, rfl⟩ := exists_entry there
    exact ⟨j, covered⟩
  · obtain ⟨x, there, covered⟩ := hq.instruments_covered
      (fun t member => lp t ((same t).mpr member)) (entry_mem j)
    obtain ⟨i, rfl⟩ := exists_entry there
    exact ⟨i, covered.symm⟩

end

section
variable {p q : Pool} {t : Track} {e : Fin p.instruments.length ≃ Fin q.instruments.length}
  (spec : ∀ i j, SameMacros p q (entry p.instruments i) (entry q.instruments j) ↔ e i = j)
  {numbers numbers' : List UInt8} (hp : t.Numbering p numbers) (hq : t.Numbering q numbers')
include spec hp hq

theorem links_numbers : Forall₂ (Links e) numbers numbers' := by
  refine (forall₂_of_map_eq hp hq).imp fun a b ⟨i, _, ha, hb⟩ => ?_
  obtain ⟨x, here, leads⟩ := meaning?_eq_some_iff.mp ha
  obtain ⟨y, here', leads'⟩ := meaning?_eq_some_iff.mp hb
  exact links_of_content? spec here here' ⟨t.macrosOf i, leads, leads'⟩

theorem sameStream_encode (volumes : t.VolumesInRange) (c : Channel) (slot : UInt8) :
    SameStream e (encode t numbers c slot).value.bytes (encode t numbers' c slot).value.bytes :=
  ⟨_, _, writes_encode volumes numbers c slot, writes_encode volumes numbers' c slot,
    matches_encode (links_numbers spec hp hq) t c slot⟩

end

section
variable {p q : Pool} {ts us : List Track} (hp : p.HoldsOnly ts) (hq : q.HoldsOnly us)
  (same : ∀ t, t ∈ ts ↔ t ∈ us) (lp : p.LinksAll ts) (lq : q.LinksAll us)
include hp hq same lp lq

theorem exists_equiv_patterns (volumes : ∀ t ∈ ts, t.VolumesInRange)
    {e : Fin p.instruments.length ≃ Fin q.instruments.length}
    (spec : ∀ i j, SameMacros p q (entry p.instruments i) (entry q.instruments j) ↔ e i = j) :
    ∃ f : Fin p.patterns.length ≃ Fin q.patterns.length,
      ∀ i j, SameStream e (entry p.patterns i) (entry q.patterns j) ↔ f i = j := by
  refine exists_equiv (entry_injective hp.distinctPatterns) (entry_injective hq.distinctPatterns)
    (sameStream_biUnique e) (fun i => ?_) fun j => ?_
  · obtain ⟨t, there, numbers, numbering, v, slot, named, bytes⟩ := hp.patterns _ (entry_mem i)
    obtain ⟨numbers', order, link⟩ := lq t ((same t).mp there)
    obtain ⟨j, stream⟩ := exists_entry (link.patterns v slot named)
    refine ⟨j, ?_⟩
    rw [bytes, stream]
    exact sameStream_encode spec numbering link.instruments (volumes t there) v.channel slot
  · obtain ⟨t, there, numbers', numbering', v, slot, named, bytes⟩ := hq.patterns _ (entry_mem j)
    have member := (same t).mpr there
    obtain ⟨numbers, order, link⟩ := lp t member
    obtain ⟨i, stream⟩ := exists_entry (link.patterns v slot named)
    refine ⟨i, ?_⟩
    rw [bytes, stream]
    exact sameStream_encode spec link.instruments numbering' (volumes t member) v.channel slot

theorem exists_correspondence (volumes : ∀ t ∈ ts, t.VolumesInRange) :
    ∃ c : Correspondence p q, ∀ t ∈ ts, ∀ numbers order numbers' order',
      t.Linked p numbers order → t.Linked q numbers' order' → c.SameOrder order order' := by
  obtain ⟨macros, macroSpec⟩ := exists_equiv_macros hp hq same lp lq
  obtain ⟨instruments, instrumentSpec⟩ := exists_equiv_instruments hp hq same lp lq
  obtain ⟨patterns, patternSpec⟩ := exists_equiv_patterns hp hq same lp lq volumes instrumentSpec
  have links {a b : UInt8} {m : Macro} (ha : content? p.macros a.toNat = some m)
      (hb : content? q.macros b.toNat = some m) : Links macros a b :=
    links_of_content? macroSpec ha hb rfl
  refine ⟨⟨macros, instruments, patterns, fun i => ((macroSpec i _).mpr rfl).symm, fun i low => ?_,
    fun i kind => ?_, fun i => (patternSpec i _).mpr rfl⟩, ?_⟩
  · have small : (UInt8.ofNat i).toNat = i :=
      UInt8.toNat_ofNat_of_lt' (Nat.lt_trans low (by decide))
    obtain ⟨m, seed⟩ : ∃ m, content? seeded.macros i = some m := by
      match i, low with
      | 0, _ => exact ⟨_, rfl⟩
      | 1, _ => exact ⟨_, rfl⟩
    have fixed := links (a := UInt8.ofNat i) (b := UInt8.ofNat i) (m := m)
      (by rw [small]; exact content?_of_prefix hp.seeds.macros seed)
      (by rw [small]; exact content?_of_prefix hq.seeds.macros seed)
    simpa only [Links, small] using fixed
  · obtain ⟨ms, leads, leads'⟩ := (instrumentSpec i _).mpr rfl
    exact links (leads kind) (leads' kind)
  · intro t there numbers order numbers' order' link link' v
    refine (forall₂_of_map_eq (link.order v) (link'.order v)).imp fun a b ⟨frame, _, ha, hb⟩ => ?_
    exact links_of_content? patternSpec ha hb
      (sameStream_encode instrumentSpec link.instruments link'.instruments (volumes t there) _ _)

end

theorem LinksAll.of_forall₂ {q : Pool} {ts : List Track}
    {songs : List (Diagnosed PackError PackedSong)}
    (h : Forall₂ (fun t song => ∃ numbers, t.Linked q numbers song.value.order) ts songs) :
    q.LinksAll ts := by
  induction h with
  | nil => exact fun _ member => absurd member List.not_mem_nil
  | cons first _ ih =>
    intro t member
    rcases List.mem_cons.mp member with rfl | later
    · exact first.imp fun numbers link => ⟨_, link⟩
    · exact ih t later

theorem sfx_packSongs (p : Pool) (ts : List Track) : (p.packSongs ts).1.sfx = p.sfx := by
  induction ts generalizing p with
  | nil => rfl
  | cons t ts ih => rw [packSongs_cons, ih, packSong_pool]

end Pool

/-! Sizes -/

theorem total_eq_of_equiv {κ ω : Type} {table table' : List (Entry κ ω)} (cost : κ → Nat)
    (e : Fin table.length ≃ Fin table'.length)
    (same : ∀ i, cost (entry table i) = cost (entry table' (e i))) :
    Cost.total (table.map fun x => cost x.content)
      = Cost.total (table'.map fun x => cost x.content) :=
  calc Cost.total (table.map fun x => cost x.content)
      = ∑ i, cost (entry table i) :=
        (Fin.sum_univ_fun_getElem table fun x => cost x.content).symm
    _ = ∑ i, cost (entry table' (e i)) := Fintype.sum_congr _ _ same
    _ = ∑ j, cost (entry table' j) := e.sum_comp fun j => cost (entry table' j)
    _ = Cost.total (table'.map fun x => cost x.content) :=
        Fin.sum_univ_fun_getElem table' fun x => cost x.content

theorem Sizes.of_eq_of_correspondence {a b : PackedSet} (c : a.pool.Correspondence b.pool)
    (sfx : a.pool.sfx = b.pool.sfx)
    (orders : (a.songs.map fun e => e.song.order.length).Perm
      (b.songs.map fun e => e.song.order.length)) : Sizes.of a = Sizes.of b := by
  have count : a.songs.length = b.songs.length := by simpa using orders.length_eq
  have cost (songs : List SongEntry) : (songs.map fun e => Cost.ofOrder e.song)
      = (songs.map fun e => e.song.order.length).map fun n => Cost.pointer + n * Cost.frame := by
    rw [List.map_map]
    rfl
  have streams (i : Fin a.pool.patterns.length) : Cost.ofPattern (entry a.pool.patterns i)
      = Cost.ofPattern (entry b.pool.patterns (c.patterns i)) := by
    obtain ⟨ts, us, ht, hu, tokens⟩ := c.streams i
    rw [← ht.bytes, ← hu.bytes, Cost.ofPattern, Cost.ofPattern, Token.length_flatMap_bytes tokens]
  rw [of, of, Sizes.mk.injEq]
  refine ⟨?_, ?_, ?_, ?_, ?_, ?_⟩
  · exact total_eq_of_equiv Cost.ofMacro c.macros fun i => by rw [c.macro_eq]
  · rw [Fin.equiv_iff_eq.mp ⟨c.instruments⟩]
  · rw [cost, cost]
    exact (orders.map _).sum_eq
  · exact total_eq_of_equiv Cost.ofPattern c.patterns streams
  · rw [sfx]
  · rw [count]

namespace Pool

theorem packSongs_spec {ts : List Track}
    (fits : ∀ song ∈ (seeded.packSongs ts).2, ∀ e ∈ song.errors, ¬ e.isPoolOverflow) :
    (seeded.packSongs ts).1.HoldsOnly ts
      ∧ Forall₂ (fun t song =>
          ∃ numbers, t.Linked (seeded.packSongs ts).1 numbers song.value.order)
        ts (seeded.packSongs ts).2 :=
  holdsOnly_seeded.packSongs fits

theorem length_order_of_linked {q : Pool} {ts : List Track}
    {songs : List (Diagnosed PackError PackedSong)}
    (h : Forall₂ (fun t song => ∃ numbers, t.Linked q numbers song.value.order) ts songs) :
    songs.map (fun song => song.value.order.length) = ts.map fun t => t.order.length := by
  induction h with
  | nil => rfl
  | cons first _ ih =>
    obtain ⟨numbers, link⟩ := first
    have here := congrArg List.length (link.order .pulse1)
    rw [List.length_map, List.length_map] at here
    rw [List.map_cons, List.map_cons, ih, here]

theorem orders_packSongs {ts : List Track} {set : PackedSet}
    (fits : ∀ song ∈ (seeded.packSongs ts).2, ∀ e ∈ song.errors, ¬ e.isPoolOverflow)
    (songs : set.songs.map SongEntry.song = (seeded.packSongs ts).2.map Diagnosed.value) :
    (set.songs.map fun e => e.song.order.length) = ts.map fun t => t.order.length := by
  rw [← length_order_of_linked (packSongs_spec fits).2]
  have each := congrArg (List.map fun song : PackedSong => song.order.length) songs
  rw [List.map_map, List.map_map] at each
  exact each

/-- The order in which songs are packed changes nothing but numbers. -/
theorem packSongs_perm {ts us : List Track} (perm : ts.Perm us)
    (volumes : ∀ t ∈ ts, t.VolumesInRange)
    (fits : ∀ song ∈ (seeded.packSongs ts).2, ∀ e ∈ song.errors, ¬ e.isPoolOverflow)
    (fits' : ∀ song ∈ (seeded.packSongs us).2, ∀ e ∈ song.errors, ¬ e.isPoolOverflow) :
    (∃ c : Correspondence (seeded.packSongs ts).1 (seeded.packSongs us).1,
      ∀ (i j : Nat) (t : Track), ts[i]? = some t → us[j]? = some t →
        ∃ song song' : Diagnosed PackError PackedSong,
          (seeded.packSongs ts).2[i]? = some song ∧ (seeded.packSongs us).2[j]? = some song'
            ∧ c.SameOrder song.value.order song'.value.order)
      ∧ (seeded.packSongs ts).1.macros.length = (seeded.packSongs us).1.macros.length
      ∧ (seeded.packSongs ts).1.instruments.length = (seeded.packSongs us).1.instruments.length
      ∧ (seeded.packSongs ts).1.patterns.length = (seeded.packSongs us).1.patterns.length
      ∧ ∀ a b : PackedSet,
        a.pool = (seeded.packSongs ts).1 → b.pool = (seeded.packSongs us).1 →
        a.songs.map SongEntry.song = (seeded.packSongs ts).2.map Diagnosed.value →
        b.songs.map SongEntry.song = (seeded.packSongs us).2.map Diagnosed.value →
        Sizes.of a = Sizes.of b := by
  obtain ⟨hp, lp⟩ := packSongs_spec fits
  obtain ⟨hq, lq⟩ := packSongs_spec fits'
  obtain ⟨c, orders⟩ := exists_correspondence hp hq (fun t => perm.mem_iff) (.of_forall₂ lp)
    (.of_forall₂ lq) volumes
  refine ⟨⟨c, fun i j t hi hj => ?_⟩, Fin.equiv_iff_eq.mp ⟨c.macros⟩,
    Fin.equiv_iff_eq.mp ⟨c.instruments⟩, Fin.equiv_iff_eq.mp ⟨c.patterns⟩, ?_⟩
  · obtain ⟨bound, here⟩ := List.getElem?_eq_some_iff.mp hi
    obtain ⟨bound', here'⟩ := List.getElem?_eq_some_iff.mp hj
    obtain ⟨numbers, link⟩ := lp.get bound (lp.length_eq ▸ bound)
    obtain ⟨numbers', link'⟩ := lq.get bound' (lq.length_eq ▸ bound')
    simp only [List.get_eq_getElem, here, here'] at link link'
    exact ⟨_, _, List.getElem?_eq_getElem _, List.getElem?_eq_getElem _,
      orders t (List.mem_of_getElem? hi) _ _ _ _ link link'⟩
  · rintro a b ha hb songs songs'
    have sfx : a.pool.sfx = b.pool.sfx := by rw [ha, hb, sfx_packSongs, sfx_packSongs]
    have c' : a.pool.Correspondence b.pool := by
      rw [ha, hb]
      exact c
    refine Sizes.of_eq_of_correspondence c' sfx ?_
    rw [orders_packSongs fits songs, orders_packSongs fits' songs']
    exact perm.map _

/-- A single note, with an instrument of one macro. -/
def oneNote (title : String) (level : Int8) : Track :=
  { Track.new title with
    patternLength := 2
    macros := ⟨[⟨[level], 0⟩], [], [], [], []⟩
    instruments := [⟨"", ⟨some 0, none, none, none, none⟩⟩]
    order := [⟨0, 0, 0, 0, 0⟩]
    patterns := [⟨[Pattern.emptyRow.set .pulse1 ⟨.tone 4 9, some 0, some 15, [⟨loopLetter, 0⟩]⟩,
      Pattern.emptyRow]⟩] }

theorem oneNote_songs_correspond :
    (∀ t ∈ [oneNote "lead" 7, oneNote "bass" 9], t.VolumesInRange)
      ∧ (∀ song ∈ (seeded.packSongs [oneNote "lead" 7, oneNote "bass" 9]).2,
        ∀ e ∈ song.errors, ¬ e.isPoolOverflow)
      ∧ (∀ song ∈ (seeded.packSongs [oneNote "bass" 9, oneNote "lead" 7]).2,
        ∀ e ∈ song.errors, ¬ e.isPoolOverflow)
      ∧ ∃ c : Correspondence (seeded.packSongs [oneNote "lead" 7, oneNote "bass" 9]).1
          (seeded.packSongs [oneNote "bass" 9, oneNote "lead" 7]).1,
        c.SameOrder [⟨0, 1, 1, 1⟩] [⟨2, 1, 1, 1⟩] := by
  have volumes : ∀ t ∈ [oneNote "lead" 7, oneNote "bass" 9], t.VolumesInRange := by decide
  have fits : ∀ song ∈ (seeded.packSongs [oneNote "lead" 7, oneNote "bass" 9]).2,
      ∀ e ∈ song.errors, ¬ e.isPoolOverflow := by decide
  have fits' : ∀ song ∈ (seeded.packSongs [oneNote "bass" 9, oneNote "lead" 7]).2,
      ∀ e ∈ song.errors, ¬ e.isPoolOverflow := by decide
  obtain ⟨⟨c, orders⟩, -⟩ := packSongs_perm (.swap _ _ []) volumes fits fits'
  refine ⟨volumes, fits, fits', c, ?_⟩
  obtain ⟨song, song', first, second, same⟩ := orders 0 1 (oneNote "lead" 7) rfl rfl
  have order : song.value.order = [⟨0, 1, 1, 1⟩] := Option.some.inj first ▸ by decide
  have order' : song'.value.order = [⟨2, 1, 1, 1⟩] := Option.some.inj second ▸ by decide
  rwa [order, order'] at same

end Pool

end TuneBank
