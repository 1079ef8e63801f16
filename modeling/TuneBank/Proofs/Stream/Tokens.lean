import Mathlib.Tactic.SplitIfs
import TuneBank.Proofs.Stream.Driver

/-! The tokens of an encoded pattern. `tokens_codeCell` gives those of a row, column by column and
without the reports; `forall_encode` carries a property of skips and rows over to whole streams.
With it, streams whose volumes are in range are cut back into the tokens that were written. -/

namespace TuneBank

def Cell.VolumeInRange (cell : Cell) : Prop := ∀ level ∈ cell.volume, level.toNat ≤ 15

instance (cell : Cell) : Decidable cell.VolumeInRange :=
  Option.decidableForallMem cell.volume

theorem Cell.volumeInRange_empty : empty.VolumeInRange := fun _ h => nomatch h

def Track.VolumesInRange (t : Track) : Prop :=
  ∀ p ∈ t.patterns, ∀ cells ∈ p.cells, ∀ c ∈ Channel.all, (cells.get c).VolumeInRange

instance (t : Track) : Decidable t.VolumesInRange :=
  inferInstanceAs (Decidable (∀ p ∈ t.patterns, ∀ cells ∈ p.cells, ∀ c ∈ Channel.all,
    (cells.get c).VolumeInRange))

theorem Track.forall_cell {P : Cell → Prop} {t : Track} {c : Channel} (empty : P .empty)
    (written : ∀ p ∈ t.patterns, ∀ cells ∈ p.cells, P (cells.get c)) (slot : UInt8) (row : Nat) :
    P (t.cell c slot row) := by
  unfold cell
  split
  · rename_i cells found
    obtain ⟨p, there, here⟩ := Option.bind_eq_some_iff.mp found
    exact written p (List.mem_of_getElem? there) cells (List.mem_of_getElem? here)
  · exact empty

theorem Track.VolumesInRange.cell {t : Track} (h : t.VolumesInRange) (c : Channel) (slot : UInt8)
    (row : Nat) : (t.cell c slot row).VolumeInRange :=
  t.forall_cell Cell.volumeInRange_empty
    (fun p there cells here => h p there cells here c c.mem_all) slot row

namespace Bytecode

def effectToken? (e : Effect) : Option Token :=
  if e.code = loopLetter then some (.loop e.param)
  else if e.code = breakLetter then some .patternBreak
  else if e.code = speedLetter then some (.speed e.param)
  else none

def Sound.token? : Sound → Option Token
  | .silent => none
  | .cut => some .halt
  | .pitch number => some (.pitch (UInt8.ofNat (Code.halt.toNat + 1 + number)))

namespace Running
variable (s : Running)

/-- A volume is written if it is not the one written last. -/
def volumeToken? (volume : Option UInt8) : Option Token :=
  (volume.filter fun level => s.volume ≠ some level).map .volume

/-- An instrument is written if it is not the one written last and the map knows it. -/
def instrumentToken? (map : List UInt8) (instrument : Option UInt8) : Option Token :=
  ((instrument.filter fun number => s.instrument ≠ some number).bind
    fun number => map[number.toNat]?).map .instrument

theorem tokens_codeVolume (volume : Option UInt8) :
    (s.codeVolume volume).tokens = (s.volumeToken? volume).toList := by
  cases volume with
  | none => rfl
  | some level =>
    by_cases same : s.volume = some level
    · simp [codeVolume, volumeToken?, same, Coded.nothing, Option.filter_some]
    · simp [codeVolume, volumeToken?, same, Coded.ofToken, Option.filter_some]

theorem tokens_codeInstrument (map : List UInt8) (place : Location) (instrument : Option UInt8) :
    (s.codeInstrument map place instrument).tokens
      = (s.instrumentToken? map instrument).toList := by
  cases instrument with
  | none => rfl
  | some number =>
    by_cases same : s.instrument = some number
    · simp [codeInstrument, instrumentToken?, same, Coded.nothing, Option.filter_some]
    · simp only [codeInstrument, instrumentToken?, if_neg same, Option.filter_some, decide_not,
        decide_eq_false same, Bool.not_false, if_true, Option.bind_some]
      cases map[number.toNat]? <;> rfl

end Running

theorem tokens_codeEffects (place : Location) (loops : Nat) (es : List Effect) :
    (codeEffects place loops es).tokens = es.filterMap effectToken? := by
  induction es generalizing loops with
  | nil => rfl
  | cons e es ih =>
    rw [codeEffects, Coded.tokens_append, ih]
    unfold codeEffect
    split_ifs <;> simp_all [effectToken?, Coded.ofToken, Coded.refused]

theorem tonePitch_eq (octave semitone : UInt8) :
    tonePitch octave semitone = Code.halt.toNat + 1 + (12 * octave.toNat + semitone.toNat) := by
  simp only [tonePitch]
  omega

theorem tokens_codeNote (place : Location) (note : Note) :
    (codeNote place note).tokens = (Sound.ofNote note).token?.toList := by
  have pitched (number : Nat) (h : playable place note =
      if Code.halt.toNat + 1 + number ≥ Code.volume.toNat then .refused (.noteOutOfRange place note)
      else .pitch (UInt8.ofNat (Code.halt.toNat + 1 + number))) :
      (codeNote place note).tokens = (Sound.ofPitch number).token?.toList := by
    unfold codeNote Sound.ofPitch
    rw [h]
    by_cases high : Code.halt.toNat + 1 + number ≥ Code.volume.toNat
    · rw [if_pos high, if_neg (Nat.not_lt.mpr high)]
      rfl
    · rw [if_neg high, if_pos (Nat.lt_of_not_le high)]
      rfl
  cases note with
  | blank => rfl
  | halt => rfl
  | release => rfl
  | tone octave semitone => exact pitched _ (by rw [← tonePitch_eq]; rfl)
  | noise period => exact pitched _ rfl

theorem tokens_codeCell (s : Running) (map : List UInt8) (place : Location) (cell : Cell) :
    (s.codeCell map place cell).tokens
      = cell.effects.filterMap effectToken? ++ (s.volumeToken? cell.volume).toList
        ++ (s.instrumentToken? map cell.instrument).toList
        ++ (Sound.ofNote cell.note).token?.toList := by
  simp only [Running.codeCell, Coded.tokens_append, tokens_codeEffects, Running.tokens_codeVolume,
    Running.tokens_codeInstrument, tokens_codeNote]

def Token.isCommand : Token → Bool
  | volume _ | instrument _ | loop _ | patternBreak | speed _ => true
  | _ => false

theorem isCommand_of_effectToken? {e : Effect} {t : Token} (h : effectToken? e = some t) :
    t.isCommand := by
  unfold effectToken? at h
  split_ifs at h <;> (obtain rfl := Option.some.inj h; rfl)

theorem isCommand_of_mem_columns {s : Running} {map : List UInt8} {cell : Cell} {t : Token}
    (member : t ∈ cell.effects.filterMap effectToken? ++ (s.volumeToken? cell.volume).toList
      ++ (s.instrumentToken? map cell.instrument).toList) : t.isCommand := by
  simp only [List.mem_append, List.mem_filterMap, Option.mem_toList] at member
  rcases member with (⟨e, -, effect⟩ | volume) | instrument
  · exact isCommand_of_effectToken? effect
  · obtain ⟨level, -, rfl⟩ := Option.map_eq_some_iff.mp volume
    rfl
  · obtain ⟨number, -, rfl⟩ := Option.map_eq_some_iff.mp instrument
    rfl

theorem mem_tokens_codeCell {s : Running} {map : List UInt8} {place : Location} {cell : Cell}
    {t : Token} (member : t ∈ (s.codeCell map place cell).tokens) :
    (∃ e, effectToken? e = some t) ∨ (∃ level ∈ cell.volume, t = .volume level)
      ∨ (∃ number, t = .instrument number) ∨ (Sound.ofNote cell.note).token? = some t := by
  rw [tokens_codeCell] at member
  simp only [List.mem_append, List.mem_filterMap, Option.mem_toList] at member
  rcases member with ((⟨e, -, effect⟩ | volume) | instrument) | note
  · exact .inl ⟨e, effect⟩
  · obtain ⟨level, authored, rfl⟩ := Option.map_eq_some_iff.mp volume
    exact .inr (.inl ⟨level, (Option.filter_eq_some_iff.mp authored).1, rfl⟩)
  · obtain ⟨number, -, rfl⟩ := Option.map_eq_some_iff.mp instrument
    exact .inr (.inr (.inl ⟨number, rfl⟩))
  · exact .inr (.inr (.inr note))

theorem Sound.ofPitch_eq_pitch {number heard : Nat} (h : Sound.ofPitch number = .pitch heard) :
    heard = number ∧ Code.halt.toNat + 1 + heard < Code.volume.toNat := by
  unfold ofPitch at h
  split_ifs at h with low
  obtain rfl : number = heard := by simpa using h
  exact ⟨rfl, low⟩

theorem Sound.pitch_lt_volume {note : Note} {number : Nat}
    (h : Sound.ofNote note = .pitch number) :
    Code.halt.toNat + 1 + number < Code.volume.toNat := by
  cases note with
  | blank | halt | release => simp [ofNote] at h
  | tone octave semitone => exact (ofPitch_eq_pitch h).2
  | noise period => exact (ofPitch_eq_pitch h).2

theorem toNat_pitch_byte {number : Nat} (h : Code.halt.toNat + 1 + number < Code.volume.toNat) :
    (UInt8.ofNat (Code.halt.toNat + 1 + number)).toNat = Code.halt.toNat + 1 + number :=
  UInt8.toNat_ofNat_of_lt' (Nat.lt_trans h (by decide))

section
variable {τ : Type} [Skipping τ] {P : τ → Prop}
  (skips : ∀ rows, rows ≤ Code.skipMax → P (Skipping.skip rows))
include skips

theorem SkipWriter.gap_of_skips (count : Nat) : P (SkipWriter.gap count) := by
  refine skips _ ?_
  have small : min count Code.skipMax.toNat < UInt8.size :=
    Nat.lt_of_le_of_lt (Nat.min_le_right _ _) (by decide)
  rw [UInt8.le_iff_toNat_le, UInt8.toNat_ofNat_of_lt' small]
  exact Nat.min_le_right _ _

theorem SkipWriter.forall_write (w : SkipWriter τ) (tokens : List τ) (ends : Bool)
    (before : ∀ t ∈ w.out, P t) (added : ∀ t ∈ tokens, P t) :
    ∀ t ∈ (w.write tokens ends).1.out, P t := by
  have due : ∀ t ∈ (if w.pending = 0 then [] else [gap (w.pending - 1)] : List τ), P t := by
    intro t member
    split_ifs at member
    · exact absurd member List.not_mem_nil
    · rw [List.mem_singleton.mp member]
      exact gap_of_skips skips _
  intro t member
  rcases List.mem_append.mp member with earlier | last
  · rcases List.mem_append.mp earlier with first | middle
    · exact before t first
    · exact due t middle
  · exact added t last

theorem SkipWriter.forall_finish (w : SkipWriter τ) (before : ∀ t ∈ w.out, P t) :
    ∀ t ∈ w.finish.1, P t := by
  intro t member
  rcases List.mem_append.mp member with first | last
  · exact before t first
  · split_ifs at last
    · exact absurd last List.not_mem_nil
    · rw [List.mem_singleton.mp last]
      exact gap_of_skips skips _

end

section
variable {P : Token → Prop} (skips : ∀ rows, rows ≤ Code.skipMax → P (.skip rows))
include skips

theorem forall_writeCells (map : List UInt8) (channel : Channel) (slot : UInt8)
    (cells : List Cell)
    (coded : ∀ s place, ∀ cell ∈ cells, ∀ t ∈ (Running.codeCell s map place cell).tokens, P t)
    (row : Nat) (s : Running) (w : SkipWriter Token) (before : ∀ t ∈ w.out, P t) :
    ∀ t ∈ (writeCells map channel slot row s w cells).1.out, P t := by
  induction cells generalizing row s w with
  | nil => exact before
  | cons cell cells ih =>
    have rest := fun s place u member => coded s place u (List.mem_cons_of_mem cell member)
    simp only [writeCells]
    split_ifs
    · exact ih rest _ _ _ before
    · exact ih rest _ _ _ (w.forall_write skips _ _ before (coded _ _ cell List.mem_cons_self))

theorem forall_encode (track : Track) (map : List UInt8) (c : Channel) (slot : UInt8)
    (coded : ∀ s place, ∀ cell ∈ track.column c slot,
      ∀ t ∈ (Running.codeCell s map place cell).tokens, P t) :
    ∀ t ∈ (encode track map c slot).value.tokens, P t :=
  SkipWriter.forall_finish skips _
    (forall_writeCells skips map c slot _ coded 0 .start .new fun _ member =>
      absurd member List.not_mem_nil)

end

theorem wellFormed_of_effectToken? {e : Effect} {t : Token} (h : effectToken? e = some t) :
    t.WellFormed := by
  unfold effectToken? at h
  split_ifs at h <;> (obtain rfl := Option.some.inj h; trivial)

theorem wellFormed_codeCell (s : Running) (map : List UInt8) (place : Location) (cell : Cell)
    (small : cell.VolumeInRange) :
    ∀ t ∈ (s.codeCell map place cell).tokens, t.WellFormed := by
  intro t member
  rcases mem_tokens_codeCell member with
    ⟨e, effect⟩ | ⟨level, authored, rfl⟩ | ⟨number, rfl⟩ | note
  · exact wellFormed_of_effectToken? effect
  · exact small level authored
  · trivial
  · cases heard : Sound.ofNote cell.note with
    | silent => simp [heard, Sound.token?] at note
    | cut =>
      obtain rfl : Token.halt = t := by simpa [heard, Sound.token?] using note
      trivial
    | pitch number =>
      obtain rfl : Token.pitch (UInt8.ofNat (Code.halt.toNat + 1 + number)) = t := by
        simpa [heard, Sound.token?] using note
      have below := Sound.pitch_lt_volume heard
      constructor
      · rw [UInt8.lt_iff_toNat_lt, toNat_pitch_byte below]
        omega
      · rwa [UInt8.lt_iff_toNat_lt, toNat_pitch_byte below]

theorem wellFormed_encode {track : Track} (volumes : track.VolumesInRange) (map : List UInt8)
    (c : Channel) (slot : UInt8) :
    ∀ t ∈ (encode track map c slot).value.tokens, t.WellFormed := by
  refine forall_encode (fun _ low => low) track map c slot fun s place cell member => ?_
  rw [Track.column_eq_map] at member
  obtain ⟨row, -, rfl⟩ := List.mem_map.mp member
  exact wellFormed_codeCell s map place _ (volumes.cell c slot row)

theorem writes_encode {track : Track} (volumes : track.VolumesInRange) (map : List UInt8)
    (c : Channel) (slot : UInt8) :
    Token.Writes (encode track map c slot).value.tokens (encode track map c slot).value.bytes :=
  ⟨wellFormed_encode volumes map c slot, rfl⟩

end Bytecode

end TuneBank
