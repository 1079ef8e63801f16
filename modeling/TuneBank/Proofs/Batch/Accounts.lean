import TuneBank.Proofs.Batch.Listing
import TuneBank.Proofs.Pool.Repacking
import TuneBank.Sizes

/-! The accounts of a run. Every pattern of the pool was added by one song, and every macro but the
seeds was first defined as one kind; so sizes and counts by song and by kind add up to those of the
tables. -/

namespace TuneBank

section
variable {κ ω : Type} [DecidableEq κ]

theorem range_intern (table : List (Entry κ ω)) (content : κ) (origin : ω) :
    List.range table.length
        ++ (if (intern table content origin).2.isNew then [(intern table content origin).2.index]
          else [])
      = List.range (intern table content origin).1.length := by
  unfold intern
  split
  · exact List.append_nil _
  · simp [List.range_succ]

theorem filter_internAll {P : ω → Bool} (table : List (Entry κ ω)) {requests : List (κ × ω)}
    (other : ∀ request ∈ requests, P request.2 = false) :
    (internAll table requests).1.filter (P ·.origin) = table.filter (P ·.origin) := by
  induction requests generalizing table with
  | nil => rfl
  | cons request requests ih =>
    obtain ⟨first, later⟩ := List.forall_mem_cons.mp other
    rw [internAll_cons, ih _ later, table_intern]
    split_ifs
    · rfl
    · simp [first]

end

namespace Pool

theorem foldl_addSlot_newPatterns (track : Track) (numbers : List UInt8)
    (jobs : List (Voice × UInt8)) {d : PatternDraft} {old : Nat}
    (h : List.range old ++ d.newPatterns = List.range d.pool.patterns.length) :
    let after := jobs.foldl (fun d job => PatternDraft.addSlot track numbers job.1 d job.2) d
    List.range old ++ after.newPatterns = List.range after.pool.patterns.length := by
  induction jobs generalizing d with
  | nil => exact h
  | cons job jobs ih =>
    refine ih (d := d.addSlot track numbers job.1 job.2) ?_
    rw [PatternDraft.addSlot_eq, ← List.append_assoc, h]
    exact range_intern _ _ _

theorem range_packPatterns (p : Pool) (t : Track) (numbers : List UInt8) :
    List.range p.patterns.length ++ (p.packPatterns t numbers).newPatterns
      = List.range (p.packPatterns t numbers).pool.patterns.length := by
  rw [packPatterns_eq_foldl]
  exact foldl_addSlot_newPatterns t numbers _ (List.append_nil _)

theorem range_newPatterns (p : Pool) (t : Track) :
    List.range p.patterns.length ++ (p.packSong t).2.value.newPatterns
      = List.range (p.packSong t).1.patterns.length := by
  let named := (p.remapMacros t).1.remapInstruments t (p.remapMacros t).2
  have before : named.1.patterns = p.patterns := by
    simp only [named, remapInstruments, internInstruments_pool, remapMacros_pool]
  have draft := range_packPatterns named.1 t named.2.1
  rwa [before] at draft

theorem kind?_of_mem_requests {t : Track} {request : Macro × MacroOrigin}
    (member : request ∈ MacroKind.all.flatMap (kindRequests t)) :
    (decide (request.2.kind? = none)) = false := by
  obtain ⟨kind, -, own⟩ := List.mem_flatMap.mp member
  obtain ⟨j, origin⟩ := origin_of_mem_macroRequests own
  rw [origin]
  rfl

end Pool

structure PackedSet.Accounted (set : PackedSet) : Prop where
  patterns : (set.songs.flatMap fun e => e.song.newPatterns) = List.range set.pool.patterns.length
  seeds : set.pool.macros.filter (·.origin.kind? = none) = Pool.seeded.macros

namespace PackedSet.Accounted

theorem new : Batch.new.set.Accounted := by
  constructor <;> decide

variable {b : Batch} (h : b.set.Accounted)
include h

theorem addSong (source text : String) : (b.addSong source text).1.set.Accounted where
  patterns := by
    have grown := Pool.range_newPatterns b.set.pool (Export.load text 1).value
    simp only [Batch.addSong, List.flatMap_append, h.patterns]
    simpa [Batch.pool] using grown
  seeds := by
    have pool : (b.addSong source text).1.set.pool = _ :=
      Pool.packSong_pool b.pool (Export.load text 1).value
    rw [pool, ← h.seeds]
    exact filter_internAll (P := fun origin => origin.kind? = none) _
      fun _ member => Pool.kind?_of_mem_requests member

theorem addAll (calls : List Batch.Call) : (b.addAll calls).set.Accounted := by
  induction calls generalizing b with
  | nil => exact h
  | cons call calls ih =>
    refine ih (b := (b.add call.kind call.source call.text).1) ?_
    cases call.kind with
    | music => exact h.addSong call.source call.text
    | sfx => exact ⟨h.patterns, h.seeds⟩

end PackedSet.Accounted

/-! Sums -/

theorem total_of_kinds (cost : Entry Macro MacroOrigin → Nat)
    (entries : List (Entry Macro MacroOrigin)) :
    Cost.total (MacroKind.all.map fun kind =>
        Cost.total ((entries.filter (·.origin.kind? = some kind)).map cost))
      + Cost.total ((entries.filter (·.origin.kind? = none)).map cost)
      = Cost.total (entries.map cost) := by
  induction entries with
  | nil => rfl
  | cons e entries ih =>
    simp only [MacroKind.all, List.map_cons, List.map_nil, Cost.total_cons, Cost.total_nil]
      at ih ⊢
    cases own : e.origin.kind? with
    | none => simp [own]; omega
    | some kind => cases kind <;> simp [own] <;> omega

theorem total_map_range {κ ω : Type} (table : List (Entry κ ω)) (cost : Option (Entry κ ω) → Nat) :
    Cost.total ((List.range table.length).map fun i => cost table[i]?)
      = Cost.total (table.map fun e => cost (some e)) := by
  refine congrArg Cost.total (List.ext_getElem (by simp) fun i _ bound => ?_)
  simp only [List.length_map] at bound
  simp [bound]

namespace PackedSet.Accounted
variable {set : PackedSet} (h : set.Accounted)
include h

theorem total_songSize : Cost.total (set.songs.map fun e => Statistics.songSize set.pool e.song)
    = (Sizes.of set).patterns + (Sizes.of set).orders + (Sizes.of set).misc := by
  have patterns := total_map_range set.pool.patterns
    fun e => Cost.ofPattern ((e.map Entry.content).getD [])
  simp only [← h.patterns, List.map_flatMap, Cost.total_flatMap] at patterns
  simp only [Statistics.songSize, Cost.total_map_add, patterns, Cost.total_map_const]
  rfl

theorem total_newPatterns : Cost.total (set.songs.map fun e => e.song.newPatterns.length)
    = set.pool.patterns.length := by
  have count := Cost.total_map_const 1 (set.songs.flatMap fun e => e.song.newPatterns)
  simp only [List.map_flatMap, Cost.total_flatMap, Cost.total_map_const, Nat.mul_one] at count
  rw [count, h.patterns, List.length_range]

theorem total_macroKindSize :
    Cost.total (MacroKind.all.map (Statistics.macroKindSize set.pool)) + 10
      = (Sizes.of set).macros := by
  have kinds := total_of_kinds (fun e => Cost.ofMacro e.content) set.pool.macros
  rw [h.seeds] at kinds
  have each (kind : MacroKind) : Statistics.macroKindSize set.pool kind = Cost.total
      ((set.pool.macros.filter (·.origin.kind? = some kind)).map fun e => Cost.ofMacro e.content) :=
    congrArg Cost.total List.map_map
  rw [List.map_congr_left fun kind _ => each kind]
  exact kinds

theorem total_macrosOf :
    Cost.total (MacroKind.all.map fun kind => (Statistics.macrosOf set.pool kind).length) + 2
      = set.pool.macros.length := by
  have kinds := total_of_kinds (fun _ => 1) set.pool.macros
  rw [h.seeds] at kinds
  simp only [Cost.total_map_const, Nat.mul_one] at kinds
  simp only [Statistics.macrosOf, List.length_map]
  exact kinds

end PackedSet.Accounted
end TuneBank
