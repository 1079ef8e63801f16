import TuneBank.Bytecode.SoundEffect
import TuneBank.Song

/-! Tracks that differ in empty pattern slots only. Nothing that is packed can tell them apart:
every reader of the patterns goes by the cell at a position, and a cell of a missing slot is
empty. -/

namespace TuneBank

/-- The second track has the same cells at all positions, and nothing else differs but in which
slots they are kept. -/
structure Track.Alike (t u : Track) : Prop where
  rest : u = { t with patterns := u.patterns }
  cells : ∀ c slot row, u.cell c slot row = t.cell c slot row

namespace Track.Alike
variable {t u v : Track}

theorem refl (t : Track) : t.Alike t := ⟨rfl, fun _ _ _ => rfl⟩

theorem trans (h : t.Alike u) (next : u.Alike v) : t.Alike v where
  rest := by
    have own := next.rest
    rwa [h.rest] at own
  cells c slot row := (next.cells c slot row).trans (h.cells c slot row)

variable (h : t.Alike u)
include h

theorem symm : u.Alike t where
  rest := by rw [h.rest]
  cells c slot row := (h.cells c slot row).symm

theorem map {f : Track → Track}
    (apart : ∀ t ps, f { t with patterns := ps } = { f t with patterns := ps }) :
    (f t).Alike (f u) := by
  have patterns (t : Track) : (f t).patterns = t.patterns :=
    congrArg (·.patterns) (apart t t.patterns)
  have cell (t : Track) (c : Channel) (slot : UInt8) (row : Nat) :
      (f t).cell c slot row = t.cell c slot row := by
    simp only [Track.cell, Track.pattern?, patterns]
  refine ⟨?_, fun c slot row => ?_⟩
  · rw [patterns, ← apart, ← h.rest]
  · rw [cell, cell, h.cells]

theorem patternLength : u.patternLength = t.patternLength := by rw [h.rest]

theorem column (c : Channel) (slot : UInt8) : u.column c slot = t.column c slot := by
  rw [Track.column_eq_map, Track.column_eq_map, h.patternLength]
  exact List.map_congr_left fun row _ => h.cells c slot row

theorem slots (c : Channel) : u.slots c = t.slots c := by
  rw [h.rest]
  rfl

theorem encode (map : List UInt8) (c : Channel) (slot : UInt8) :
    Bytecode.encode u map c slot = Bytecode.encode t map c slot := by
  simp only [Bytecode.encode, h.column c slot]

theorem encodeSfx : Bytecode.encodeSfx u = Bytecode.encodeSfx t := by
  have speed : u.speed = t.speed := by rw [h.rest]
  have mode : Bytecode.sfxMode? u = Bytecode.sfxMode? t := by
    simp only [Bytecode.sfxMode?, h.cells]
  simp only [Bytecode.encodeSfx, speed, mode, h.column]

theorem addSlot (numbers : List UInt8) (v : Voice) :
    PatternDraft.addSlot u numbers v = PatternDraft.addSlot t numbers v := by
  have title : u.title = t.title := by rw [h.rest]
  funext d slot
  simp only [PatternDraft.addSlot, h.encode, title]

theorem packPatterns (p : Pool) (numbers : List UInt8) :
    p.packPatterns u numbers = p.packPatterns t numbers := by
  have voice : PatternDraft.addVoice u numbers = PatternDraft.addVoice t numbers := by
    funext d v
    simp only [PatternDraft.addVoice, h.addSlot, h.slots]
  simp only [Pool.packPatterns, voice]

theorem packSong (p : Pool) : p.packSong u = p.packSong t := by
  have patterns (q : Pool) (numbers : List UInt8) :
      q.packPatterns { t with patterns := u.patterns } numbers = q.packPatterns t numbers := by
    rw [← h.rest]
    exact h.packPatterns q numbers
  rw [h.rest]
  simp only [Pool.packSong, patterns]
  rfl

end Track.Alike

end TuneBank
