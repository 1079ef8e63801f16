import TuneBank.Proofs.Pool.Linked

/-! Pools against a ledger of everything that was asked for. The ledger writes down every request,
repeated or not, after the seeds; a table is the ledger without the entries whose content stands
further up. -/

namespace TuneBank

section
variable {κ ω : Type} [DecidableEq κ] {asked table : List (Entry κ ω)}

structure FirstOf (asked table : List (Entry κ ω)) : Prop where
  order : contents table = (contents asked).eraseDups
  first : ∀ e ∈ table, asked.find? (·.content = e.content) = some e
  distinct : (contents table).Nodup

/-- Where the content is in the end, and whether this is the first request for it. -/
def answerTo (asked later : List (Entry κ ω)) (content : κ) : Interned :=
  ⟨(contents later).idxOf content, decide (content ∉ contents asked)⟩

namespace FirstOf
variable (h : FirstOf asked table) (content : κ) (origin : ω)
include h

theorem mem_contents : content ∈ contents table ↔ content ∈ contents asked := by
  rw [h.order, List.mem_eraseDups]

theorem next : FirstOf (asked ++ [⟨content, origin⟩]) (intern table content origin).1 where
  order := by
    have one : [content].eraseDups = [content] := by simp [List.eraseDups_cons]
    have split : contents (asked ++ [⟨content, origin⟩]) = contents asked ++ [content] :=
      List.map_append
    rw [contents_intern, split, List.eraseDups_append, ← h.order]
    by_cases old : content ∈ contents asked
    · simp [List.removeAll, h.mem_contents, old]
    · simp [List.removeAll, h.mem_contents, old, one]
  first := by
    intro e member
    rw [table_intern] at member
    rw [List.find?_append]
    split at member
    · rw [h.first e member, Option.some_or]
    · rename_i new
      rcases List.mem_append.mp member with old | last
      · rw [h.first e old, Option.some_or]
      · obtain rfl := List.mem_singleton.mp last
        have none : asked.find? (·.content = content) = none :=
          List.find?_eq_none.mpr fun f there same => new ((h.mem_contents content).mpr
            (List.mem_map.mpr ⟨f, there, of_decide_eq_true same⟩))
        simp [none]
  distinct := nodup_intern table content origin h.distinct

theorem intern_eq {later : List (Entry κ ω)}
    (distinct : (contents later).Nodup) (grown : (intern table content origin).1 <+: later) :
    (intern table content origin).2 = answerTo asked later content := by
  have isNew : (intern table content origin).2.isNew = decide (content ∉ contents asked) := by
    rw [Bool.eq_iff_iff, isNew_intern, decide_eq_true_iff]
    exact not_congr (h.mem_contents content)
  have here := content?_of_prefix grown (content_intern table content origin)
  rw [content?_eq] at here
  obtain ⟨bound, same⟩ := List.getElem?_eq_some_iff.mp here
  have place := distinct.idxOf_getElem _ bound
  rw [same] at place
  rw [answerTo, place, ← isNew]

end FirstOf

end

namespace Pool

inductive Request where
  | macroDef (content : Macro) (origin : MacroOrigin)
  | instrument (macros : PerKind UInt8) (origin : InstrumentOrigin)
  | pattern (bytes : List UInt8) (origin : PatternOrigin)
  | sfx (title : String) (sfx : Bytecode.SfxStream)

inductive Answer where
  | interned (i : Interned)
  | pushed (index : Nat)
  deriving DecidableEq

def serve (p : Pool) : Request → Pool × Answer
  | .macroDef content origin =>
    let (p, interned) := p.internMacro content origin
    (p, .interned interned)
  | .instrument macros origin =>
    let (p, interned) := p.internInstrument macros origin
    (p, .interned interned)
  | .pattern bytes origin =>
    let (p, interned) := p.internPattern bytes origin
    (p, .interned interned)
  | .sfx title sfx =>
    let (p, index) := p.pushSfx title sfx
    (p, .pushed index)

def serveAll : Pool → List Request → Pool × List Answer
  | p, [] => (p, [])
  | p, r :: rs =>
    let (p, answer) := p.serve r
    let (p, answers) := serveAll p rs
    (p, answer :: answers)

def record (p : Pool) : Request → Pool
  | .macroDef content origin => { p with macros := p.macros ++ [⟨content, origin⟩] }
  | .instrument macros origin => { p with instruments := p.instruments ++ [⟨macros, origin⟩] }
  | .pattern bytes origin => { p with patterns := p.patterns ++ [⟨bytes, origin⟩] }
  | .sfx title sfx => { p with sfx := p.sfx ++ [⟨title, sfx⟩] }

/-- The seeds and all requests. -/
def ledger (requests : List Request) : Pool := requests.foldl record seeded

/-- The answer to a request, from what was asked for before it and the tables in the end. -/
def answer (asked later : Pool) : Request → Answer
  | .macroDef content _ => .interned (answerTo asked.macros later.macros content)
  | .instrument macros _ => .interned (answerTo asked.instruments later.instruments macros)
  | .pattern bytes _ => .interned (answerTo asked.patterns later.patterns bytes)
  | .sfx _ _ => .pushed asked.sfx.length

structure Keeps (asked p : Pool) : Prop where
  macros : FirstOf asked.macros p.macros
  instruments : FirstOf asked.instruments p.instruments
  patterns : FirstOf asked.patterns p.patterns
  sfx : p.sfx = asked.sfx

theorem keeps_seeded : seeded.Keeps seeded := by
  constructor <;> first | rfl | (constructor <;> decide)

variable {asked p q : Pool}

theorem Keeps.serve (h : asked.Keeps p) (r : Request) : (asked.record r).Keeps (p.serve r).1 := by
  cases r with
  | macroDef content origin => exact { h with macros := h.macros.next content origin }
  | instrument macros origin => exact { h with instruments := h.instruments.next macros origin }
  | pattern bytes origin => exact { h with patterns := h.patterns.next bytes origin }
  | sfx title sfx => exact { h with sfx := congrArg (· ++ [SfxEntry.mk title sfx]) h.sfx }

theorem grows_serve (p : Pool) (r : Request) : p.Grows (p.serve r).1 := by
  cases r with
  | macroDef content origin => exact { Grows.refl p with macros := prefix_intern _ _ _ }
  | instrument macros origin => exact { Grows.refl p with instruments := prefix_intern _ _ _ }
  | pattern bytes origin => exact { Grows.refl p with patterns := prefix_intern _ _ _ }
  | sfx title sfx => exact grows_pushSfx p title sfx

theorem Keeps.answer_serve {asked' : Pool} (h : asked.Keeps p) (later : asked'.Keeps q)
    (r : Request) (grown : (p.serve r).1.Grows q) : (p.serve r).2 = answer asked q r := by
  cases r with
  | macroDef content origin =>
    exact congrArg Answer.interned
      (h.macros.intern_eq content origin later.macros.distinct grown.macros)
  | instrument macros origin =>
    exact congrArg Answer.interned
      (h.instruments.intern_eq macros origin later.instruments.distinct grown.instruments)
  | pattern bytes origin =>
    exact congrArg Answer.interned
      (h.patterns.intern_eq bytes origin later.patterns.distinct grown.patterns)
  | sfx title sfx => exact congrArg (Answer.pushed ·.length) h.sfx

theorem serveAll_cons (p : Pool) (r : Request) (rs : List Request) :
    p.serveAll (r :: rs) =
      (((p.serve r).1.serveAll rs).1, (p.serve r).2 :: ((p.serve r).1.serveAll rs).2) := rfl

theorem serveAll_append (p : Pool) (first second : List Request) :
    p.serveAll (first ++ second) =
      (((p.serveAll first).1.serveAll second).1,
        (p.serveAll first).2 ++ ((p.serveAll first).1.serveAll second).2) := by
  induction first generalizing p with
  | nil => rfl
  | cons r first ih => rw [List.cons_append, serveAll_cons, ih]; rfl

theorem Keeps.serveAll (h : asked.Keeps p) (rs : List Request) :
    (rs.foldl record asked).Keeps (p.serveAll rs).1 := by
  induction rs generalizing asked p with
  | nil => exact h
  | cons r rs ih => exact ih (h.serve r)

theorem grows_serveAll (p : Pool) (rs : List Request) : p.Grows (p.serveAll rs).1 := by
  induction rs generalizing p with
  | nil => exact .refl p
  | cons r rs ih => exact (grows_serve p r).trans (ih _)

theorem length_serveAll (p : Pool) (rs : List Request) :
    (p.serveAll rs).2.length = rs.length := by
  induction rs generalizing p with
  | nil => rfl
  | cons r rs ih => rw [serveAll_cons, List.length_cons, ih, List.length_cons]

/-- After any requests the tables are the ledger without repeated contents. No request moves what
was there before it, and each is answered with the place of its content, which is where it still is
in the end, and as new if the ledger did not have the content before. -/
theorem serveAll_keeps_first_requests :
    (∀ requests, (ledger requests).Keeps (seeded.serveAll requests).1
      ∧ (seeded.serveAll requests).2.length = requests.length)
    ∧ ∀ before r after,
      (seeded.serveAll before).1.Grows (seeded.serveAll (before ++ r :: after)).1
        ∧ (seeded.serveAll (before ++ r :: after)).2[before.length]?
          = some (answer (ledger before) (seeded.serveAll (before ++ r :: after)).1 r) := by
  refine ⟨fun requests => ⟨keeps_seeded.serveAll requests, length_serveAll seeded requests⟩,
    fun before r after => ?_⟩
  have earlier := keeps_seeded.serveAll before
  have kept := keeps_seeded.serveAll (before ++ r :: after)
  rw [serveAll_append] at kept ⊢
  refine ⟨grows_serveAll _ _, ?_⟩
  have place : before.length = (seeded.serveAll before).2.length :=
    (length_serveAll seeded before).symm
  rw [List.getElem?_append_right (Nat.le_of_eq place.symm), ← place, Nat.sub_self, serveAll_cons]
  exact congrArg some (earlier.answer_serve kept r (grows_serveAll _ after))

example (origin : MacroOrigin) :
    (seeded.serveAll [.macroDef ⟨[15], 0⟩ origin, .macroDef ⟨[3], 0⟩ origin,
      .macroDef ⟨[3], 0⟩ origin]).2
      = [.interned ⟨1, false⟩, .interned ⟨2, true⟩, .interned ⟨2, false⟩] := rfl

end Pool

end TuneBank
