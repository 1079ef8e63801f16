import TuneBank.Proofs.Stream.Tokens

/-! Playing an encoded pattern gives back the rows that its cells mean. The writer and the driver
agree on what was written last, and the rows that the writer still owes are those that the next
skip of the driver closes; `play_writeCells` carries both through the cells of a slot. -/

namespace TuneBank

/-- A gap of rows was cut to what one skip can hold. -/
def PackError.isSkipOverflow : PackError → Bool
  | tooManySkips _ _ | tooManySkipsAtEnd _ _ _ => true
  | _ => false

namespace Bytecode

theorem play_effectTokens (r : Registers) (effects es : List Effect) (ts : List Token) :
    play r effects (es.filterMap effectToken? ++ ts)
      = play r (effects ++ es.filterMap played?) ts := by
  induction es generalizing effects with
  | nil => simp
  | cons e es ih =>
    obtain ⟨code, param⟩ := e
    by_cases loop : code = loopLetter
    · simp [effectToken?, played?, loop, play, ih]
    · by_cases stop : code = breakLetter
      · simp [effectToken?, played?, stop, play, ih, breakLetter, loopLetter]
      · by_cases speed : code = speedLetter
        · simp [effectToken?, played?, speed, play, ih, breakLetter, loopLetter, speedLetter]
        · simp [effectToken?, played?, loop, stop, speed, ih]

variable {s : Running} {map : List UInt8} {r : Registers}

theorem play_volumeToken (agree : ∀ level, s.volume = some level → r.volume = level)
    (effects : List Effect) (volume : Option UInt8) (ts : List Token) :
    play r effects ((s.volumeToken? volume).toList ++ ts)
      = play { r with volume := volume.getD r.volume } effects ts := by
  cases volume with
  | none => rfl
  | some level =>
    by_cases same : s.volume = some level
    · simp [Running.volumeToken?, same, Option.filter_some, ← agree level same]
    · simp [Running.volumeToken?, same, Option.filter_some, play]

theorem play_instrumentToken
    (agree : ∀ number, s.instrument = some number → map[number.toNat]? = some r.instrument)
    (effects : List Effect) (instrument : Option UInt8) (ts : List Token) :
    play r effects ((s.instrumentToken? map instrument).toList ++ ts)
      = play { r with
          instrument := (instrument.bind fun number => map[number.toNat]?).getD r.instrument }
        effects ts := by
  cases instrument with
  | none => rfl
  | some number =>
    by_cases same : s.instrument = some number
    · simp [Running.instrumentToken?, same, Option.filter_some, agree number same]
    · simp only [Running.instrumentToken?, Option.filter_some, ne_eq, same, not_false_eq_true,
        decide_true, if_true, Option.bind_some]
      cases map[number.toNat]? <;> rfl

theorem play_noteToken (r : Registers) (effects : List Effect) {note : Note} {t : Token}
    (h : (Sound.ofNote note).token? = some t) (ts : List Token) :
    play r effects (t :: ts) = ⟨effects, .ofNote note, r⟩ :: play r [] ts := by
  cases heard : Sound.ofNote note with
  | silent => simp [heard, Sound.token?] at h
  | cut =>
    obtain rfl : Token.halt = t := by simpa [heard, Sound.token?] using h
    rfl
  | pitch number =>
    obtain rfl : Token.pitch (UInt8.ofNat (Code.halt.toNat + 1 + number)) = t := by
      simpa [heard, Sound.token?] using h
    rw [play, toNat_pitch_byte (Sound.pitch_lt_volume heard), Nat.add_sub_cancel_left]

structure Running.Agrees (s : Running) (map : List UInt8) (r : Registers) : Prop where
  volume : ∀ level, s.volume = some level → r.volume = level
  instrument : ∀ number, s.instrument = some number → map[number.toNat]? = some r.instrument

theorem Running.agrees_start (map : List UInt8) (r : Registers) : start.Agrees map r :=
  ⟨fun _ h => (nomatch h), fun _ h => (nomatch h)⟩

theorem Running.Agrees.after (agree : s.Agrees map r) (cell : Cell) :
    (s.after map cell).Agrees map (r.after map cell) where
  volume level h := by
    cases authored : cell.volume with
    | none =>
      rw [Running.after, authored] at h
      rw [Registers.after, authored]
      exact agree.volume level h
    | some other =>
      obtain rfl : other = level := by simpa [Running.after, authored] using h
      simp [Registers.after, authored]
  instrument number h := by
    cases authored : cell.instrument with
    | none =>
      rw [Running.after, authored] at h
      rw [Registers.after, authored]
      exact agree.instrument number h
    | some other =>
      by_cases known : other.toNat < map.length
      · obtain rfl : other = number := by
          simpa [Running.after, authored, known, Option.filter_some] using h
        simp [Registers.after, authored, known]
      · have held : s.instrument = some number := by
          simpa [Running.after, authored, known, Option.filter_some] using h
        have missing : map[other.toNat]? = none := List.getElem?_eq_none (Nat.le_of_not_lt known)
        simpa [Registers.after, authored, missing] using agree.instrument number held

theorem Running.Agrees.play_columns (agree : s.Agrees map r) (cell : Cell) (ts : List Token) :
    play r [] (cell.effects.filterMap effectToken? ++ (s.volumeToken? cell.volume).toList
        ++ (s.instrumentToken? map cell.instrument).toList ++ ts)
      = play (r.after map cell) (cell.effects.filterMap played?) ts := by
  rw [List.append_assoc, List.append_assoc, play_effectTokens, List.nil_append,
    play_volumeToken agree.volume, play_instrumentToken (by exact agree.instrument)]
  rfl

theorem Sound.token?_eq_none {sound : Sound} : sound.token? = none ↔ sound = .silent := by
  cases sound <;> simp [token?]

theorem endsRow_eq (place : Location) (note : Note) :
    endsRow place note = (Sound.ofNote note).token?.isSome := by
  rw [endsRow, tokens_codeNote]
  cases (Sound.ofNote note).token? <;> rfl

theorem Running.Agrees.of_tokens_eq_nil (agree : s.Agrees map r) {place : Location} {cell : Cell}
    (none : (s.codeCell map place cell).tokens = []) :
    cell.effects.filterMap played? = [] ∧ Sound.ofNote cell.note = .silent
      ∧ r.after map cell = r := by
  rw [tokens_codeCell] at none
  simp only [List.append_eq_nil_iff, Option.toList_eq_nil_iff] at none
  obtain ⟨⟨⟨effects, volume⟩, instrument⟩, note⟩ := none
  have columns := agree.play_columns cell [.halt]
  rw [effects, volume, instrument] at columns
  simp only [Option.toList_none, List.append_nil, List.nil_append, play, List.cons.injEq,
    PlayedRow.mk.injEq, and_true, true_and] at columns
  exact ⟨columns.1.symm, Sound.token?_eq_none.mp note, columns.2.symm⟩

/-- The effects that a row leaves to the driver when its tokens are read: those of an open row. -/
def effectsLeft (place : Location) (cell : Cell) : List Effect :=
  if endsRow place cell.note then [] else cell.effects.filterMap played?

theorem Running.Agrees.play_codeCell (agree : s.Agrees map r) (place : Location) (cell : Cell)
    {ts : List Token} {rows : List PlayedRow}
    (later : play (r.after map cell) (effectsLeft place cell) ts
      = closeRows (r.after map cell) (effectsLeft place cell)
        (if endsRow place cell.note then 0 else 1) ++ rows) :
    play r [] ((s.codeCell map place cell).tokens ++ ts)
      = ⟨cell.effects.filterMap played?, .ofNote cell.note, r.after map cell⟩ :: rows := by
  rw [tokens_codeCell, List.append_assoc, agree.play_columns]
  rw [effectsLeft, endsRow_eq] at later
  cases note : (Sound.ofNote cell.note).token? with
  | none =>
    simp only [note, Option.isSome_none, Bool.false_eq_true, if_false] at later
    rw [Option.toList_none, List.nil_append, later, Sound.token?_eq_none.mp note]
    rfl
  | some t =>
    simp only [note, Option.isSome_some, if_true] at later
    rw [Option.toList_some, List.singleton_append, play_noteToken _ _ note, later]
    rfl

theorem closeRows_succ {effects : List Effect} {n : Nat} (idle : n = 0 → effects = []) :
    closeRows r effects (n + 1) = closeRows r effects n ++ [⟨[], .silent, r⟩] := by
  cases n with
  | zero => rw [idle rfl]; rfl
  | succ n => simp [closeRows, List.replicate_succ']

theorem SkipWriter.toNat_gap {n : Nat} (fits : n ≤ Code.skipMax.toNat) :
    (UInt8.ofNat (min n Code.skipMax.toNat)).toNat = n := by
  rw [Nat.min_eq_left fits]
  exact UInt8.toNat_ofNat_of_lt' (Nat.lt_of_le_of_lt fits (by decide))

theorem play_due {effects : List Effect} {n : Nat} (idle : n = 0 → effects = [])
    (fits : n ≤ Code.skipMax.toNat) (t : Token) (ts : List Token) :
    play r effects ((if n = 0 then [] else [SkipWriter.gap (n - 1)]) ++ t :: ts)
      = closeRows r effects n ++ play r [] (t :: ts) := by
  cases n with
  | zero => rw [idle rfl]; rfl
  | succ n =>
    change play r effects (.skip (UInt8.ofNat (min n Code.skipMax.toNat)) :: t :: ts) = _
    rw [play, SkipWriter.toNat_gap (Nat.le_of_succ_le fits)]

theorem play_gap {effects : List Effect} {n : Nat} (fits : n ≤ Code.skipMax.toNat) :
    play r effects (if n = 0 then [] else [SkipWriter.gap n]) = closeRows r effects n := by
  cases n with
  | zero => rfl
  | succ n =>
    change play r effects [.skip (UInt8.ofNat (min (n + 1) Code.skipMax.toNat))] = _
    rw [play, SkipWriter.toNat_gap fits]

theorem SkipWriter.overflow?_eq_none {τ : Type} [Skipping τ] {w : SkipWriter τ}
    (h : w.overflow? = none) : w.pending ≤ Code.skipMax.toNat := by
  unfold overflow? at h
  split_ifs at h with high
  exact Nat.le_of_not_lt high

theorem SkipWriter.pending_le {τ : Type} [Skipping τ] {w : SkipWriter τ} {place : Location}
    (fits : ∀ e ∈ (w.overflow?.map (PackError.tooManySkips place)).toList, ¬ e.isSkipOverflow) :
    w.pending ≤ Code.skipMax.toNat := by
  refine overflow?_eq_none (Option.eq_none_iff_forall_ne_some.mpr fun rows full => ?_)
  refine fits (.tooManySkips place rows) (Option.mem_toList.mpr ?_) rfl
  exact Option.map_eq_some_iff.mpr ⟨rows, full, rfl⟩

section
variable {channel : Channel} {slot : UInt8} {row : Nat} {cell : Cell} {cells : List Cell}
  {w : SkipWriter Token}

theorem writeCells_cons_of_silent
    (none : (s.codeCell map ⟨channel, slot, row⟩ cell).tokens = []) :
    writeCells map channel slot row s w (cell :: cells) =
      ((writeCells map channel slot (row + 1) (s.after map cell) (w.silent 1) cells).1,
        (s.codeCell map ⟨channel, slot, row⟩ cell).errors
          ++ (writeCells map channel slot (row + 1) (s.after map cell) (w.silent 1) cells).2) := by
  simp [writeCells, none]

theorem writeCells_cons_of_tokens {w' : SkipWriter Token} {cut : Option Nat}
    (some : (s.codeCell map ⟨channel, slot, row⟩ cell).tokens ≠ [])
    (written : w.write (s.codeCell map ⟨channel, slot, row⟩ cell).tokens
      (endsRow ⟨channel, slot, row⟩ cell.note) = (w', cut)) :
    writeCells map channel slot row s w (cell :: cells) =
      ((writeCells map channel slot (row + 1) (s.after map cell) w' cells).1,
        (s.codeCell map ⟨channel, slot, row⟩ cell).errors
          ++ (cut.map (PackError.tooManySkips ⟨channel, slot, row⟩)).toList
          ++ (writeCells map channel slot (row + 1) (s.after map cell) w' cells).2) := by
  simp [writeCells, some, written]

end

/-- From any state on, what is written next is played as the rows still owed and then as the rows
of the cells. -/
theorem play_writeCells (channel : Channel) (slot : UInt8) (cells : List Cell) (row : Nat)
    (w : SkipWriter Token) (agree : s.Agrees map r) (effects : List Effect)
    (idle : w.pending = 0 → effects = [])
    (fits : ∀ e ∈ (writeCells map channel slot row s w cells).2, ¬ e.isSkipOverflow)
    (fitsAtEnd : (writeCells map channel slot row s w cells).1.finish.2 = none) :
    ∃ ts, (writeCells map channel slot row s w cells).1.finish.1 = w.out ++ ts
      ∧ play r effects ts = closeRows r effects w.pending ++ perform map r cells := by
  induction cells generalizing row s r w effects with
  | nil =>
    refine ⟨_, rfl, ?_⟩
    rw [play_gap (SkipWriter.overflow?_eq_none fitsAtEnd)]
    exact (List.append_nil _).symm
  | cons cell cells ih =>
    rw [perform]
    by_cases none : (s.codeCell map ⟨channel, slot, row⟩ cell).tokens = []
    · obtain ⟨effectless, silent, kept⟩ := agree.of_tokens_eq_nil none
      rw [writeCells_cons_of_silent none] at fits fitsAtEnd ⊢
      obtain ⟨ts, written, played⟩ := ih (row + 1) (w.silent 1) (agree.after cell) effects
        (fun h => absurd h (Nat.succ_ne_zero _))
        (fun e member => fits e (List.mem_append_right _ member)) fitsAtEnd
      refine ⟨ts, written, ?_⟩
      rw [kept] at played
      rw [played, effectless, silent, kept, SkipWriter.silent, closeRows_succ idle,
        List.append_assoc]
      rfl
    · rw [writeCells_cons_of_tokens none rfl] at fits fitsAtEnd ⊢
      have small : w.pending ≤ Code.skipMax.toNat := SkipWriter.pending_le fun e member =>
        fits e (List.mem_append_left _ (List.mem_append_right _ member))
      obtain ⟨ts, written, played⟩ := ih (row + 1) _ (agree.after cell)
        (effectsLeft ⟨channel, slot, row⟩ cell)
        (fun h => by
          by_cases ends : endsRow ⟨channel, slot, row⟩ cell.note = true
          · exact if_pos ends
          · exact absurd h (by simp [ends]))
        (fun e member => fits e (List.mem_append_right _ member)) fitsAtEnd
      refine ⟨_, written.trans (by simp only [List.append_assoc]; rfl), ?_⟩
      obtain ⟨t, rest, tokens⟩ := List.exists_cons_of_ne_nil none
      rw [tokens, List.cons_append, play_due idle small, ← List.cons_append, ← tokens,
        agree.play_codeCell ⟨channel, slot, row⟩ cell played]

theorem playBytes?_encode {track : Track} (volumes : track.VolumesInRange) {map : List UInt8}
    {c : Channel} {slot : UInt8}
    (fits : ∀ e ∈ (encode track map c slot).errors, ¬ e.isSkipOverflow) (r : Registers) :
    playBytes? r (encode track map c slot).value.bytes
      = some (perform map r (track.column c slot)) := by
  have fitsAtEnd :
      (writeCells map c slot 0 .start .new (track.column c slot)).1.finish.2 = none := by
    refine Option.eq_none_iff_forall_ne_some.mpr fun rows full => ?_
    refine fits (.tooManySkipsAtEnd c slot rows) (List.mem_append_right _ ?_) rfl
    exact Option.mem_toList.mpr (Option.map_eq_some_iff.mpr ⟨rows, full, rfl⟩)
  obtain ⟨ts, written, played⟩ := play_writeCells c slot (track.column c slot) 0 .new
    (Running.agrees_start map r) [] (fun _ => rfl)
    (fun e member => fits e (List.mem_append_left _ member)) fitsAtEnd
  have tokens : (encode track map c slot).value.tokens = ts := written
  rw [playBytes?, (writes_encode volumes map c slot).split?, tokens, Option.map_some, played]
  rfl

theorem getElem?_perform_column (track : Track) (map : List UInt8) (c : Channel) (slot : UInt8)
    (r : Registers) {row : Nat} (bound : row < track.patternLength) :
    (perform map r (track.column c slot))[row]? = some
      { effects := (track.cell c slot row).effects.filterMap played?
        sound := .ofNote (track.cell c slot row).note
        registers :=
          { volume := (latest (fun i => (track.cell c slot i).volume) row).getD r.volume
            instrument := (latest (fun i => (track.cell c slot i).instrument.bind
              fun number => map[number.toNat]?) row).getD r.instrument } } := by
  have read (i : Nat) (h : i ≤ row) : (track.column c slot)[i]? = some (track.cell c slot i) :=
    track.getElem?_column c slot i (by omega)
  have here : row < (track.column c slot).length := by simpa using bound
  have cell : (track.column c slot)[row] = track.cell c slot row :=
    Option.some.inj ((List.getElem?_eq_getElem here).symm.trans (read row (Nat.le_refl row)))
  have volume : latest (fun i => (track.column c slot)[i]?.bind Cell.volume) row
      = latest (fun i => (track.cell c slot i).volume) row :=
    latest_congr fun i h => by rw [read i h, Option.bind_some]
  have instrument : latest (fun i => ((track.column c slot)[i]?.bind Cell.instrument).bind
        fun number => map[number.toNat]?) row
      = latest (fun i => (track.cell c slot i).instrument.bind
        fun number => map[number.toNat]?) row :=
    latest_congr fun i h => by rw [read i h, Option.bind_some]
  rw [getElem?_perform map r _ row here, cell, volume, instrument]

/-- Decoding undoes encoding: a pattern in which no gap was cut is played in exactly the rows of
its slot, and each row has the effects that the driver knows, its playable note, and the volume
and the instrument last authored, or those that the driver held at the start. -/
theorem encode_plays_cells {track : Track} (volumes : track.VolumesInRange) (map : List UInt8)
    (c : Channel) (slot : UInt8)
    (fits : ∀ e ∈ (encode track map c slot).errors, ¬ e.isSkipOverflow) (r : Registers) :
    ∃ rows, playBytes? r (encode track map c slot).value.bytes = some rows
      ∧ rows.length = track.patternLength
      ∧ ∀ row < track.patternLength, rows[row]? = some
        { effects := (track.cell c slot row).effects.filterMap played?
          sound := .ofNote (track.cell c slot row).note
          registers :=
            { volume := (latest (fun i => (track.cell c slot i).volume) row).getD r.volume
              instrument := (latest (fun i => (track.cell c slot i).instrument.bind
                fun number => map[number.toNat]?) row).getD r.instrument } } :=
  ⟨_, playBytes?_encode volumes fits r, by simp,
    fun _ bound => getElem?_perform_column track map c slot r bound⟩

/-- Eight rows with an operand that reads as a cut, a repeated volume, a refused effect, a release,
an unknown instrument and a pitch out of range. -/
def mixedTrack : Track :=
  let row (cell : Cell) : PerChannel Cell := Pattern.emptyRow.set .pulse1 cell
  { Track.new "mixed" with
    patternLength := 8
    patterns := [⟨[
      row ⟨.tone 4 0, some 1, some 15, [⟨speedLetter, 3⟩, ⟨loopLetter, 0x80⟩]⟩,
      row ⟨.blank, some 1, some 15, []⟩,
      row ⟨.release, none, none, [⟨breakLetter, 5⟩, ⟨0x51, 1⟩]⟩,
      row ⟨.blank, none, some 7, []⟩,
      row ⟨.tone 9 11, some 9, none, []⟩,
      row ⟨.halt, some 0, none, []⟩]⟩] }

theorem mixedTrack_plays_cells :
    (∀ e ∈ (encode mixedTrack [0xE0, 5] .pulse1 0).errors, ¬ e.isSkipOverflow)
      ∧ ∃ rows, playBytes? ⟨3, 2⟩ (encode mixedTrack [0xE0, 5] .pulse1 0).value.bytes = some rows
        ∧ rows.length = 8
        ∧ rows[0]? = some ⟨[⟨speedLetter, 3⟩, ⟨loopLetter, 0x80⟩], .pitch 48, ⟨15, 5⟩⟩
        ∧ rows[2]? = some ⟨[⟨breakLetter, 0⟩], .silent, ⟨15, 5⟩⟩
        ∧ rows[4]? = some ⟨[], .silent, ⟨7, 5⟩⟩
        ∧ rows[5]? = some ⟨[], .cut, ⟨7, 0xE0⟩⟩ := by
  have fits : ∀ e ∈ (encode mixedTrack [0xE0, 5] .pulse1 0).errors, ¬ e.isSkipOverflow := by decide
  have volumes : mixedTrack.VolumesInRange := by decide
  obtain ⟨rows, played, length, row⟩ := encode_plays_cells volumes [0xE0, 5] .pulse1 0 fits ⟨3, 2⟩
  refine ⟨fits, rows, played, length, ?_, ?_, ?_, ?_⟩
  · exact (row 0 (by decide)).trans (by decide)
  · exact (row 2 (by decide)).trans (by decide)
  · exact (row 4 (by decide)).trans (by decide)
  · exact (row 5 (by decide)).trans (by decide)

end Bytecode

end TuneBank
