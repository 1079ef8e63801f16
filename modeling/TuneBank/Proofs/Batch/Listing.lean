import TuneBank.Proofs.Batch.Calls
import TuneBank.Proofs.Export.Invariant
import TuneBank.Proofs.Listing.Encoding
import TuneBank.Proofs.Pool.Runs

/-! The listing of a finished run. The names in its comments come from authors, one line each, and a
run gives every sound effect a symbol; so the listing can be assembled and holds the tables. -/

namespace TuneBank

namespace Title

theorem symbolChar_ne (c : Char) : symbolChar c ≠ '\n' := by
  unfold symbolChar
  split
  · rintro rfl
    simp_all [isCapital, isDigit]
  · decide

theorem noNewline_sanitize (title : String) : '\n' ∉ (sanitize title).toList := by
  rw [sanitize, String.toList_ofList]
  have none : '\n' ∉ (Text.upperCase title).toList.map symbolChar := by
    simpa using fun c _ => symbolChar_ne c
  unfold guardStart
  split
  · decide
  · split_ifs <;> simp_all

theorem noNewline_assign (taken : List String) (title : String) (index : Nat) :
    '\n' ∉ (assign taken title index).1.toList := by
  have number : '\n' ∉ (Text.decimal index).toList :=
    Listing.noNewline_of_spells (Text.Base.spells_decimal index)
  unfold assign
  simp only
  split
  · simp [firstFree, withUnderscores, noNewline_sanitize, number, List.mem_replicate]
  · exact noNewline_sanitize title

end Title

namespace Pool

theorem origin_of_mem_macroRequests {title : String} {kind : MacroKind} {i : Nat}
    {ms : List Macro} {request : Macro × MacroOrigin}
    (member : request ∈ macroRequests title kind i ms) : ∃ j, request.2 = .track title kind j := by
  induction ms generalizing i with
  | nil => exact absurd member List.not_mem_nil
  | cons m ms ih =>
    rcases List.mem_cons.mp member with rfl | later
    · exact ⟨i, rfl⟩
    · exact ih later

end Pool

theorem MacroOrigin.noNewline_label_track {title : String} (oneLine : '\n' ∉ title.toList)
    (kind : MacroKind) (index : Nat) : '\n' ∉ (track title kind index).label.toList := by
  have name : '\n' ∉ kind.name.toList := by cases kind <;> decide
  have number : '\n' ∉ (Text.decimal index).toList :=
    Listing.noNewline_of_spells (Text.Base.spells_decimal index)
  simp [label, oneLine, name, number]

namespace PackedSet.Printable

theorem new : Batch.new.set.Printable := by
  constructor <;> decide +kernel

variable {b : Batch} (h : b.set.Printable)
include h

theorem addSong (source text : String) : (b.addSong source text).1.set.Printable := by
  have track := Export.wellFormed_load text 1
  have pool : (b.addSong source text).1.set.pool = _ :=
    Pool.packSong_pool b.pool (Export.load text 1).value
  constructor
  case macros =>
    intro e member
    rw [pool] at member
    rcases mem_internAll member with old | new
    · exact h.macros e old
    · obtain ⟨kind, -, own⟩ := List.mem_flatMap.mp new
      obtain ⟨j, origin⟩ := Pool.origin_of_mem_macroRequests own
      rw [show e.origin = _ from origin]
      exact MacroOrigin.noNewline_label_track track.title kind j
  case instruments =>
    intro e member
    rw [pool] at member
    rcases mem_internAll member with old | new
    · exact h.instruments e old
    · obtain ⟨i, own, same⟩ := List.mem_map.mp new
      rw [show e.origin = _ from (Prod.mk.inj same).2.symm]
      exact ⟨track.title, track.names i own⟩
  case patterns =>
    intro e member
    rw [pool] at member
    rcases mem_internAll member with old | new
    · exact h.patterns e old
    · obtain ⟨job, -, same⟩ := List.mem_map.mp new
      rw [show e.origin = _ from (Prod.mk.inj same).2.symm]
      exact track.title
  case songs =>
    intro e member
    rcases List.mem_append.mp member with old | new
    · exact h.songs e old
    · rw [List.mem_singleton.mp new]
      exact Title.noNewline_assign _ _ _
  case sfx => exact h.sfx
  case paired =>
    rw [pool]
    exact h.paired
  case lengths =>
    intro e member
    rcases List.mem_append.mp member with old | new
    · exact h.lengths e old
    · rw [List.mem_singleton.mp new]
      exact ⟨track.nonempty, track.bounded⟩

theorem addSfx (source text : String) : (b.addSfx source text).1.set.Printable where
  macros := h.macros
  instruments := h.instruments
  patterns := h.patterns
  songs := h.songs
  sfx ident member := by
    rcases List.mem_append.mp member with old | new
    · exact h.sfx ident old
    · rw [List.mem_singleton.mp new]
      exact Title.noNewline_assign _ _ _
  paired := by
    have paired := h.paired
    simp only [Batch.addSfx, Pool.pushSfx, Batch.pool, List.length_append, paired]
    rfl
  lengths := h.lengths

theorem addAll (calls : List Batch.Call) : (b.addAll calls).set.Printable := by
  induction calls generalizing b with
  | nil => exact h
  | cons call calls ih =>
    refine ih (b := (b.add call.kind call.source call.text).1) ?_
    cases call.kind with
    | music => exact h.addSong call.source call.text
    | sfx => exact h.addSfx call.source call.text

end PackedSet.Printable

namespace Batch

/-- Whatever was added to a run, an assembler takes its listing and gets the tables of the run. -/
theorem music_assembles (calls : List Call) {memory : String} (oneLine : '\n' ∉ memory.toList) :
    ∃ blocks, Listing.assemble? (Listing.text (Listing.music (new.addAll calls).set memory))
        = some blocks
      ∧ Listing.Encodes (new.addAll calls).set blocks := by
  have fits := PackedSet.Printable.new.addAll calls
  exact ⟨_, Listing.assemble?_music fits oneLine, Listing.encodes_image fits⟩

def hitCalls : List Call := [⟨.sfx, "hit", "TITLE \"; .byte 7\""⟩]

theorem hit_assembles : '\n' ∉ "CODE".toList ∧ ∃ blocks,
    Listing.assemble? (Listing.text (Listing.music (new.addAll hitCalls).set "CODE")) = some blocks
      ∧ ⟨"data_sfx_01", [.number 0x80]⟩ ∈ blocks := by
  have oneLine : '\n' ∉ "CODE".toList := by decide
  obtain ⟨blocks, assembled, encodes⟩ := music_assembles hitCalls oneLine
  have cut : (new.addAll hitCalls).set.pool.sfx[1]? = some ⟨"; .byte 7", .silence⟩ := by
    decide +kernel
  have block : (⟨Listing.entryLabel "data_sfx" 1, Listing.sfxData ⟨"; .byte 7", .silence⟩⟩
      : Listing.Block) = ⟨"data_sfx_01", [.number 0x80]⟩ := by decide +kernel
  exact ⟨oneLine, blocks, assembled, block ▸ encodes.sfx 1 _ cut⟩

end Batch

end TuneBank
