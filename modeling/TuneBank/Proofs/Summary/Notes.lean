import Mathlib.Algebra.BigOperators.Group.Finset.Basic
import TuneBank.Proofs.Stream.Pitches
import TuneBank.Summary

/-! What a summary says of a track, against the streams of the track. A channel plays the set of
slots that the order names on it: a count over its cells is a sum over that set, and frames that
are repeated or moved add nothing to it. -/

namespace TuneBank

open Bytecode

theorem nodup_bytesWhere (p : UInt8 → Bool) : (bytesWhere p).Nodup := by
  refine List.Nodup.filter p (List.Nodup.map_on (fun m small n small' same => ?_) List.nodup_range)
  have value := congrArg UInt8.toNat same
  rwa [UInt8.toNat_ofNat_of_lt' (List.mem_range.mp small),
    UInt8.toNat_ofNat_of_lt' (List.mem_range.mp small')] at value

theorem Note.isSounding_eq (note : Note) : note.isSounding = note.pitch?.isSome := by
  cases note <;> rfl

namespace Track

theorem any_get_iff {order : List Frame} {c : Channel} {slot : UInt8} :
    (order.any fun frame => frame.get c == slot) = true ↔ slot ∈ order.map (·.get c) := by
  simp only [List.any_eq_true, List.mem_map, beq_iff_eq]

variable (t : Track) (c : Channel)

theorem mem_playedSlots_iff {slot : UInt8} :
    slot ∈ t.playedSlots c ↔ slot ∈ t.order.map (·.get c) :=
  (mem_bytesWhere _ slot).trans any_get_iff

theorem countP_playedCells (p : Cell → Bool) :
    (t.playedCells c).countP p
      = ∑ slot ∈ (t.order.map (·.get c)).toFinset, (t.column c slot).countP p := by
  have slots := List.toFinset.ext fun _ => t.mem_playedSlots_iff c
  have once : (t.playedSlots c).Nodup := nodup_bytesWhere _
  rw [← slots, List.sum_toFinset _ once, playedCells, List.countP_flatMap]
  rfl

theorem playedCells_withOrder {order : List Frame}
    (same : ∀ slot, slot ∈ order.map (·.get c) ↔ slot ∈ t.order.map (·.get c)) :
    playedCells { t with order := order } c = t.playedCells c := by
  have slots : playedSlots { t with order := order } c = t.playedSlots c :=
    congrArg bytesWhere (funext fun slot =>
      Bool.eq_iff_iff.mpr (any_get_iff.trans ((same slot).trans any_get_iff.symm)))
  rw [playedCells, slots]
  rfl

end Track

namespace Summary
variable {t : Track}

theorem of_withOrder {order : List Frame}
    (same : ∀ c slot, slot ∈ order.map (·.get c) ↔ slot ∈ t.order.map (·.get c)) :
    of { t with order := order } = { of t with frames := order.length } := by
  have cells : Track.playedCells { t with order := order } = t.playedCells :=
    funext fun c => t.playedCells_withOrder c (same c)
  simp only [of, cells]

theorem notes_of (map : List UInt8) (c : Channel) :
    (of t).notes.get c = ∑ slot ∈ (t.order.map (·.get c)).toFinset,
      ((encode t map c slot).value.tokens.countP Token.isPitch
        + (encode t map c slot).errors.countP PackError.isNoteOutOfRange) := by
  rw [of, PerChannel.get_ofFn, Track.countP_playedCells]
  refine Finset.sum_congr rfl fun slot _ => ?_
  rw [countP_encode]
  simp only [Note.isSounding_eq]

/-- The summary of a track agrees with its streams, as they are read back from their bytes, and it
does not show in which sequence or how often the frames of the order are played. -/
theorem of_agrees_with_streams (t : Track) :
    (t.VolumesInRange → ∀ (map : List UInt8) (c : Channel), ∃ tokens : UInt8 → List Token,
      (∀ slot, Token.split? (encode t map c slot).value.bytes = some (tokens slot))
        ∧ (of t).notes.get c = ∑ slot ∈ (t.order.map (·.get c)).toFinset,
            ((tokens slot).countP Token.isPitch
              + (encode t map c slot).errors.countP PackError.isNoteOutOfRange))
      ∧ ∀ order : List Frame, order ⊆ t.order → t.order ⊆ order →
          of { t with order := order } = { of t with frames := order.length } := by
  refine ⟨fun volumes map c => ?_, fun order known kept => ?_⟩
  · exact ⟨fun slot => (encode t map c slot).value.tokens,
      fun slot => (writes_encode volumes map c slot).split?, notes_of map c⟩
  · exact of_withOrder fun c slot =>
      ⟨fun named => List.map_subset _ known named, fun named => List.map_subset _ kept named⟩

/-- Two slots, the first played twice. It has operands that read as pitches, and a note that is out
of range. -/
def echoTrack : Track :=
  let row (cell : Cell) : PerChannel Cell := Pattern.emptyRow.set .pulse1 cell
  { Track.new "echo" with
    patternLength := 3
    order := [.ofFn fun _ => 0, .ofFn fun _ => 1, .ofFn fun _ => 0]
    patterns := [
      ⟨[row ⟨.tone 4 0, some 0, some 15, [⟨speedLetter, 0x90⟩]⟩,
        row ⟨.tone 9 11, none, none, []⟩,
        row ⟨.halt, none, none, []⟩]⟩,
      ⟨[row ⟨.tone 3 2, none, none, []⟩, row ⟨.release, none, none, []⟩]⟩] }

theorem echoTrack_agrees_with_streams :
    echoTrack.VolumesInRange
      ∧ (∃ first second : List Token,
          Token.split? (encode echoTrack [0xA0] .pulse1 0).value.bytes = some first
            ∧ Token.split? (encode echoTrack [0xA0] .pulse1 1).value.bytes = some second
            ∧ (of echoTrack).notes.get .pulse1
              = (first.countP Token.isPitch + 1) + (second.countP Token.isPitch + 0))
      ∧ of { echoTrack with order := [.ofFn fun _ => 1, .ofFn fun _ => 0] }
          = { of echoTrack with frames := 2 } := by
  have volumes : echoTrack.VolumesInRange := by decide
  obtain ⟨streams, order⟩ := of_agrees_with_streams echoTrack
  obtain ⟨tokens, split, count⟩ := streams volumes [0xA0] .pulse1
  have slots : (echoTrack.order.map (·.get .pulse1)).toFinset = {0, 1} := by decide
  have high : (encode echoTrack [0xA0] .pulse1 0).errors.countP PackError.isNoteOutOfRange = 1 := by
    decide
  have none : (encode echoTrack [0xA0] .pulse1 1).errors.countP PackError.isNoteOutOfRange = 0 := by
    decide
  rw [slots, Finset.sum_pair (by decide), high, none] at count
  exact ⟨volumes, ⟨tokens 0, tokens 1, split 0, split 1, count⟩, order _ (by decide) (by decide)⟩

end Summary
end TuneBank
