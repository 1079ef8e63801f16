import TuneBank.Bytecode.SoundEffect
import TuneBank.Proofs.Stream.Playback

/-! A reference reader for the bytes of a sound effect, and what an author means by its rows. Every
byte of an effect can be read by itself. `execute` goes through the tokens and counts rows; a
pitch ends its row, and a skip closes the row that is being read. `authored` looks at each row on
its own, up to the first one with a cut, and knows nothing of tokens. -/

namespace TuneBank.Bytecode

inductive SfxAction where
  | duty (bits : UInt8)
  | volume (level : UInt8)
  | pitch (number : Nat)
  deriving DecidableEq

def SfxToken.ofByte (byte : UInt8) : SfxToken :=
  if byte ≤ Code.skipMax then .skip byte
  else if byte = Code.halt then .halt
  else if byte < Code.volume then .pitch byte
  else if byte < Code.duty then .volume (byte - Code.volume)
  else .duty (byte - Code.duty)

/-- The actions of tokens, each with its row, where reading starts on a row. A skip counts one row
less than it stands for. -/
def execute : Nat → List SfxToken → List (Nat × SfxAction)
  | _, [] => []
  | _, .halt :: _ => []
  | row, .skip rows :: ts => execute (row + (rows.toNat + 1)) ts
  | row, .pitch byte :: ts =>
    (row, .pitch (byte.toNat - (Code.halt.toNat + 1))) :: execute (row + 1) ts
  | row, .volume level :: ts => (row, .volume level) :: execute row ts
  | row, .duty bits :: ts => (row, .duty bits) :: execute row ts

def Sound.number? : Sound → Option Nat
  | .pitch number => some number
  | .silent | .cut => none

def duty? (mode : SfxMode) (e : Effect) : Option SfxAction :=
  if e.code = dutyLetter then some (.duty (e.param &&& mode.dutyMask)) else none

/-- The duties of a row and its volume, if that is not the one authored last. -/
def settings (mode : SfxMode) (last : Option UInt8) (cell : Cell) : List SfxAction :=
  cell.effects.filterMap (duty? mode)
    ++ ((cell.volume.filter fun level => last ≠ some level).map .volume).toList

def actions (mode : SfxMode) (last : Option UInt8) (cell : Cell) : List SfxAction :=
  settings mode last cell ++ ((Sound.ofNote cell.note).number?.map .pitch).toList

def earlier {α : Type} (value : Nat → Option α) : Nat → Option α
  | 0 => none
  | row + 1 => latest value row

theorem earlier_succ {α : Type} (value : Nat → Option α) (row : Nat) :
    earlier value (row + 1) = (value row).or (earlier value row) := by
  cases row with
  | zero => exact (Option.or_none).symm
  | succ row => rfl

/-- No row before this one has a cut. -/
def Reached (cells : Nat → Cell) (row : Nat) : Prop := ∀ i < row, (cells i).note ≠ .halt

instance (cells : Nat → Cell) (row : Nat) : Decidable (Reached cells row) :=
  inferInstanceAs (Decidable (∀ i < row, (cells i).note ≠ .halt))

/-- What an author means by the first rows of an effect. -/
def authored (mode : SfxMode) (rows : Nat) (cells : Nat → Cell) : List (Nat × SfxAction) :=
  ((List.range rows).filter fun row => Reached cells row).flatMap fun row =>
    (actions mode (earlier (fun i => (cells i).volume) row) (cells row)).map (row, ·)

/-- The mode of an effect whose author wrote a note on the first row of pulse 1 or of noise. -/
def sourceMode (t : Track) : SfxMode :=
  if (t.cell .pulse1 0 0).note.isPresent then .square else .noise

/-! The tokens of a row. -/

namespace SfxAction

def token : SfxAction → SfxToken
  | duty bits => .duty bits
  | volume level => .volume level
  | pitch number => .pitch (UInt8.ofNat (Code.halt.toNat + 1 + number))

def Fits (mode : SfxMode) : SfxAction → Prop
  | duty bits => bits ≤ mode.dutyMask
  | volume level => level.toNat ≤ 15
  | pitch number => Code.halt.toNat + 1 + number < Code.volume.toNat

end SfxAction

def dutyToken? (mode : SfxMode) (e : Effect) : Option SfxToken :=
  if e.code = dutyLetter then some (.duty (e.param &&& mode.dutyMask)) else none

theorem tokens_codeDuties (mode : SfxMode) (place : Location) (es : List Effect) :
    (codeDuties mode place es).tokens = es.filterMap (dutyToken? mode) := by
  induction es with
  | nil => rfl
  | cons e es ih =>
    rw [codeDuties, Coded.tokens_append, ih, codeDuty, List.filterMap_cons, dutyToken?]
    split_ifs <;> rfl

theorem dutyToken?_eq_map (mode : SfxMode) (e : Effect) :
    dutyToken? mode e = (duty? mode e).map SfxAction.token := by
  unfold dutyToken? duty?
  split_ifs <;> rfl

theorem tokens_codeLevel (last volume : Option UInt8) :
    (codeLevel last volume).tokens
      = ((volume.filter fun level => last ≠ some level).map SfxToken.volume).toList := by
  cases volume with
  | none => rfl
  | some level =>
    by_cases same : last = some level
    · simp [codeLevel, same, Coded.nothing, Option.filter_some]
    · simp [codeLevel, same, Coded.ofToken, Option.filter_some]

theorem tokens_codePitch (place : Location) (note : Note) :
    (codePitch place note).tokens
      = ((Sound.ofNote note).number?.map fun number =>
          (SfxAction.pitch number).token).toList := by
  have patterns := tokens_codeNote place note
  unfold codeNote at patterns
  unfold codePitch
  cases heard : Sound.ofNote note <;> cases played : playable place note <;>
    simp_all [Sound.token?, Sound.number?, Coded.nothing, Coded.ofToken, Coded.refused,
      SfxAction.token]

theorem tokens_codeSfxCell (mode : SfxMode) (last : Option UInt8) (place : Location)
    (cell : Cell) :
    (codeSfxCell mode last place cell).tokens
      = (actions mode last cell).map SfxAction.token := by
  have duties : cell.effects.filterMap (dutyToken? mode)
      = (cell.effects.filterMap (duty? mode)).map SfxAction.token := by
    rw [List.map_filterMap]
    exact congrArg (List.filterMap · cell.effects) (funext (dutyToken?_eq_map mode))
  simp only [codeSfxCell, Coded.tokens_append, tokens_codeDuties, duties, tokens_codeLevel,
    tokens_codePitch, actions, settings, List.map_append, ← Option.toList_map, Option.map_map]
  rfl

theorem endsSfxRow_of_ne_halt (place : Location) {note : Note} (uncut : note ≠ .halt) :
    endsSfxRow place note = (Sound.ofNote note).number?.isSome := by
  rw [endsSfxRow, tokens_codePitch, decide_eq_false uncut, Bool.false_or]
  cases (Sound.ofNote note).number? <;> rfl

/-! Every token but the last cut is read back from its byte. -/

namespace SfxToken

theorem toNat_duty_add {mode : SfxMode} {bits : UInt8} (masked : bits ≤ mode.dutyMask) :
    (Code.duty + bits).toNat = 240 + bits.toNat := by
  have small : bits.toNat ≤ 3 := Nat.le_trans masked (by cases mode <;> decide)
  rw [UInt8.toNat_add]
  change (240 + bits.toNat) % 256 = _
  exact Nat.mod_eq_of_lt (by omega)

theorem toNat_codes :
    Code.skipMax.toNat = 127 ∧ Code.halt.toNat = 128 ∧ Code.volume.toNat = 224
      ∧ Code.duty.toNat = 240 := by
  decide

theorem ofByte_skip {rows : UInt8} (h : rows ≤ Code.skipMax) : ofByte rows = .skip rows := by
  rw [ofByte, if_pos h]

theorem ofByte_pitch {byte : UInt8} (above : Code.halt < byte) (below : byte < Code.volume) :
    ofByte byte = .pitch byte := by
  obtain ⟨skip, halt, volume, duty⟩ := toNat_codes
  simp only [ofByte, UInt8.le_iff_toNat_le, UInt8.lt_iff_toNat_lt, ← UInt8.toNat_inj] at *
  rw [if_neg (by omega), if_neg (by omega), if_pos (by omega)]

theorem ofByte_volume {level : UInt8} (small : level.toNat ≤ 15) :
    ofByte (Code.volume + level) = .volume level := by
  obtain ⟨skip, halt, volume, duty⟩ := toNat_codes
  simp only [ofByte, UInt8.le_iff_toNat_le, UInt8.lt_iff_toNat_lt, ← UInt8.toNat_inj,
    Token.toNat_volume_add small]
  rw [if_neg (by omega), if_neg (by omega), if_neg (by omega), if_pos (by omega),
    UInt8.add_comm, UInt8.add_sub_cancel]

theorem ofByte_duty {mode : SfxMode} {bits : UInt8} (masked : bits ≤ mode.dutyMask) :
    ofByte (Code.duty + bits) = .duty bits := by
  obtain ⟨skip, halt, volume, duty⟩ := toNat_codes
  simp only [ofByte, UInt8.le_iff_toNat_le, UInt8.lt_iff_toNat_lt, ← UInt8.toNat_inj,
    toNat_duty_add masked]
  rw [if_neg (by omega), if_neg (by omega), if_neg (by omega), if_neg (by omega),
    UInt8.add_comm, UInt8.add_sub_cancel]

end SfxToken

def SfxByte (mode : SfxMode) (byte : UInt8) : Prop :=
  byte < Code.halt
    ∨ Code.halt < byte ∧ byte < Code.volume
    ∨ (∃ level : UInt8, level.toNat ≤ 15 ∧ byte = Code.volume + level)
    ∨ ∃ bits ≤ mode.dutyMask, byte = Code.duty + bits

theorem SfxByte.ne_halt {mode : SfxMode} {byte : UInt8} (h : SfxByte mode byte) :
    byte ≠ Code.halt := by
  rintro rfl
  rcases h with skip | ⟨pitch, -⟩ | ⟨level, small, same⟩ | ⟨bits, masked, same⟩
  · exact absurd skip (by decide)
  · exact absurd pitch (by decide)
  · have value := Token.toNat_volume_add small
    rw [← same] at value
    change 128 = _ at value
    omega
  · have value := SfxToken.toNat_duty_add masked
    rw [← same] at value
    change 128 = _ at value
    omega

structure SfxToken.Readable (mode : SfxMode) (t : SfxToken) : Prop where
  byte : SfxByte mode t.byte
  read : ofByte t.byte = t

theorem SfxToken.readable_skip (mode : SfxMode) {rows : UInt8} (h : rows ≤ Code.skipMax) :
    (SfxToken.skip rows).Readable mode :=
  ⟨.inl (UInt8.lt_of_le_of_lt h (by decide)), ofByte_skip h⟩

theorem SfxAction.Fits.readable {mode : SfxMode} {a : SfxAction} (fits : a.Fits mode) :
    a.token.Readable mode := by
  cases a with
  | duty bits => exact ⟨.inr (.inr (.inr ⟨bits, fits, rfl⟩)), SfxToken.ofByte_duty fits⟩
  | volume level => exact ⟨.inr (.inr (.inl ⟨level, fits, rfl⟩)), SfxToken.ofByte_volume fits⟩
  | pitch number =>
    have value := toNat_pitch_byte fits
    have above : Code.halt < UInt8.ofNat (Code.halt.toNat + 1 + number) := by
      rw [UInt8.lt_iff_toNat_lt, value]
      omega
    have below : UInt8.ofNat (Code.halt.toNat + 1 + number) < Code.volume := by
      rwa [UInt8.lt_iff_toNat_lt, value]
    exact ⟨.inr (.inl ⟨above, below⟩), SfxToken.ofByte_pitch above below⟩

theorem Sound.number?_eq_some {sound : Sound} {number : Nat} (h : sound.number? = some number) :
    sound = .pitch number := by
  cases sound with
  | silent | cut => exact nomatch h
  | pitch heard => exact congrArg Sound.pitch (Option.some.inj h)

theorem fits_actions (mode : SfxMode) (last : Option UInt8) {cell : Cell}
    (small : cell.VolumeInRange) : ∀ a ∈ actions mode last cell, a.Fits mode := by
  intro a member
  simp only [actions, settings, List.mem_append, List.mem_filterMap, Option.mem_toList] at member
  rcases member with (⟨e, -, duty⟩ | volume) | pitch
  · unfold duty? at duty
    split_ifs at duty
    obtain rfl := Option.some.inj duty
    exact UInt8.and_le_right
  · obtain ⟨level, written, rfl⟩ := Option.map_eq_some_iff.mp volume
    exact small level (Option.filter_eq_some_iff.mp written).1
  · obtain ⟨number, heard, rfl⟩ := Option.map_eq_some_iff.mp pitch
    exact Sound.pitch_lt_volume (Sound.number?_eq_some heard)

theorem readable_writeSfxCells (mode : SfxMode) (cells : List Cell)
    (small : ∀ cell ∈ cells, cell.VolumeInRange) (row : Nat) (last : Option UInt8)
    (w : SkipWriter SfxToken) (before : ∀ t ∈ w.out, t.Readable mode) :
    ∀ t ∈ (writeSfxCells mode row last w cells).1.out, t.Readable mode := by
  induction cells generalizing row last w with
  | nil => exact before
  | cons cell cells ih =>
    have rest := fun other member => small other (List.mem_cons_of_mem cell member)
    simp only [writeSfxCells]
    split_ifs
    · exact ih rest _ _ _ before
    · refine ih rest _ _ _ (w.forall_write (fun _ => SfxToken.readable_skip mode) _ _ before ?_)
      rw [tokens_codeSfxCell, List.forall_mem_map]
      exact fun a member => (fits_actions mode last (small cell List.mem_cons_self) a member).readable

/-! The reader finds the actions of every row on that row. -/

theorem execute_settings (mode : SfxMode) (last : Option UInt8) (cell : Cell) (row : Nat)
    (ts : List SfxToken) :
    execute row ((settings mode last cell).map SfxAction.token ++ ts)
      = (settings mode last cell).map (row, ·) ++ execute row ts := by
  have each (as : List SfxAction) (set : ∀ a ∈ as, ∀ number, a ≠ .pitch number) :
      execute row (as.map SfxAction.token ++ ts) = as.map (row, ·) ++ execute row ts := by
    induction as with
    | nil => rfl
    | cons a as ih =>
      have later := ih fun b member => set b (List.mem_cons_of_mem a member)
      cases a with
      | duty bits | volume level => exact congrArg (_ :: ·) later
      | pitch number => exact absurd rfl (set _ List.mem_cons_self number)
  refine each _ fun a member number same => ?_
  subst same
  simp only [settings, List.mem_append, List.mem_filterMap, Option.mem_toList, duty?] at member
  rcases member with ⟨e, -, duty⟩ | volume
  · split_ifs at duty
    exact nomatch duty
  · simp at volume

def rowAfter (row : Nat) (note : Note) : Nat :=
  if (Sound.ofNote note).number?.isSome then row + 1 else row

theorem execute_actions (mode : SfxMode) (last : Option UInt8) (cell : Cell) (row : Nat)
    (ts : List SfxToken) :
    execute row ((actions mode last cell).map SfxAction.token ++ ts)
      = (actions mode last cell).map (row, ·) ++ execute (rowAfter row cell.note) ts := by
  rw [actions, List.map_append, List.append_assoc, execute_settings, List.map_append,
    List.append_assoc, rowAfter]
  refine congrArg (_ ++ ·) ?_
  cases heard : (Sound.ofNote cell.note).number? with
  | none => rfl
  | some number =>
    have value := toNat_pitch_byte (Sound.pitch_lt_volume (Sound.number?_eq_some heard))
    change (row, SfxAction.pitch (UInt8.toNat _ - (Code.halt.toNat + 1))) :: execute (row + 1) ts
      = [(row, .pitch number)] ++ execute (row + 1) ts
    rw [value, Nat.add_sub_cancel_left]
    rfl

theorem execute_due {n : Nat} (fits : n ≤ Code.skipMax.toNat) (row : Nat) (ts : List SfxToken) :
    execute row ((if n = 0 then [] else [SkipWriter.gap (n - 1)]) ++ ts)
      = execute (row + n) ts := by
  cases n with
  | zero => rfl
  | succ n =>
    change execute row (.skip (UInt8.ofNat (min n Code.skipMax.toNat)) :: ts) = _
    rw [execute, SkipWriter.toNat_gap (Nat.le_of_succ_le fits)]

/-- What an author means by cells from a row on, where `last` is the volume authored before. -/
def enact (mode : SfxMode) : Nat → Option UInt8 → List Cell → List (Nat × SfxAction)
  | _, _, [] => []
  | row, last, cell :: cells =>
    (actions mode last cell).map (row, ·)
      ++ if cell.note = .halt then [] else enact mode (row + 1) (cell.volume.or last) cells

theorem throughHalt_cons (cell : Cell) (cells : List Cell) :
    throughHalt (cell :: cells)
      = cell :: if cell.note = .halt then [] else throughHalt cells := by
  rw [throughHalt]
  split_ifs <;> rfl

section
variable {mode : SfxMode} {row : Nat} {last : Option UInt8} {w : SkipWriter SfxToken}
  {cell : Cell} {cells : List Cell}

theorem writeSfxCells_cons_of_silent
    (none : (codeSfxCell mode last ⟨mode.channel, 0, row⟩ cell).tokens = []) :
    writeSfxCells mode row last w (cell :: cells) =
      ((writeSfxCells mode (row + 1) (cell.volume.or last) (w.silent 1) cells).1,
        (codeSfxCell mode last ⟨mode.channel, 0, row⟩ cell).errors
          ++ (writeSfxCells mode (row + 1) (cell.volume.or last) (w.silent 1) cells).2) := by
  simp [writeSfxCells, none]

theorem writeSfxCells_cons_of_tokens {w' : SkipWriter SfxToken} {cut : Option Nat}
    (some : (codeSfxCell mode last ⟨mode.channel, 0, row⟩ cell).tokens ≠ [])
    (written : w.write (codeSfxCell mode last ⟨mode.channel, 0, row⟩ cell).tokens
      (endsSfxRow ⟨mode.channel, 0, row⟩ cell.note) = (w', cut)) :
    writeSfxCells mode row last w (cell :: cells) =
      ((writeSfxCells mode (row + 1) (cell.volume.or last) w' cells).1,
        (codeSfxCell mode last ⟨mode.channel, 0, row⟩ cell).errors
          ++ (cut.map (PackError.tooManySkips ⟨mode.channel, 0, row⟩)).toList
          ++ (writeSfxCells mode (row + 1) (cell.volume.or last) w' cells).2) := by
  simp [writeSfxCells, some, written]

end

/-- The reader is as many rows behind the writer as the writer has pending. -/
theorem execute_writeSfxCells (mode : SfxMode) (cells : List Cell) (row start : Nat)
    (last : Option UInt8) (w : SkipWriter SfxToken) (behind : start + w.pending = row)
    (fits : ∀ e ∈ (writeSfxCells mode row last w (throughHalt cells)).2, ¬ e.isSkipOverflow) :
    ∃ ts, (writeSfxCells mode row last w (throughHalt cells)).1.out = w.out ++ ts
      ∧ execute start (ts ++ [.halt]) = enact mode row last cells := by
  induction cells generalizing row start last w with
  | nil => exact ⟨[], (List.append_nil _).symm, rfl⟩
  | cons cell cells ih =>
    -- after a cut nothing is written or read, so the rows need not agree there
    have later (start : Nat) (w : SkipWriter SfxToken)
        (behind : cell.note ≠ .halt → start + w.pending = row + 1)
        (fits : ∀ e ∈ (writeSfxCells mode (row + 1) (cell.volume.or last) w
          (if cell.note = .halt then [] else throughHalt cells)).2, ¬ e.isSkipOverflow) :
        ∃ ts, (writeSfxCells mode (row + 1) (cell.volume.or last) w
            (if cell.note = .halt then [] else throughHalt cells)).1.out = w.out ++ ts
          ∧ execute start (ts ++ [.halt])
            = if cell.note = .halt then [] else enact mode (row + 1) (cell.volume.or last) cells := by
      by_cases cut : cell.note = .halt
      · simp only [if_pos cut]
        exact ⟨[], (List.append_nil _).symm, rfl⟩
      · simp only [if_neg cut] at fits ⊢
        exact ih (row + 1) start _ w (behind cut) fits
    rw [throughHalt_cons] at fits ⊢
    rw [enact]
    by_cases none : (codeSfxCell mode last ⟨mode.channel, 0, row⟩ cell).tokens = []
    · rw [writeSfxCells_cons_of_silent none] at fits ⊢
      have idle : actions mode last cell = [] := by
        rwa [tokens_codeSfxCell, List.map_eq_nil_iff] at none
      obtain ⟨ts, written, done⟩ := later start (w.silent 1)
        (fun _ => congrArg (· + 1) behind)
        (fun e member => fits e (List.mem_append_right _ member))
      exact ⟨ts, written, by rw [done, idle]; rfl⟩
    · rw [writeSfxCells_cons_of_tokens none rfl] at fits ⊢
      have small : w.pending ≤ Code.skipMax.toNat := SkipWriter.pending_le fun e member =>
        fits e (List.mem_append_left _ (List.mem_append_right _ member))
      obtain ⟨ts, written, done⟩ := later (rowAfter row cell.note) _
        (fun uncut => by
          change rowAfter row cell.note + (if endsSfxRow _ cell.note then 0 else 1) = row + 1
          rw [endsSfxRow_of_ne_halt _ uncut, rowAfter]
          cases (Sound.ofNote cell.note).number? <;> rfl)
        (fun e member => fits e (List.mem_append_right _ member))
      refine ⟨_, written.trans (by simp only [List.append_assoc]; rfl), ?_⟩
      rw [List.append_assoc, List.append_assoc, execute_due small, behind, tokens_codeSfxCell,
        execute_actions, done]

theorem enact_eq_authored (mode : SfxMode) (cells : Nat → Cell) (n row : Nat)
    (reached : Reached cells row) :
    enact mode row (earlier (fun i => (cells i).volume) row) ((List.range' row n).map cells)
      = ((List.range' row n).filter fun i => Reached cells i).flatMap fun i =>
        (actions mode (earlier (fun j => (cells j).volume) i) (cells i)).map (i, ·) := by
  induction n generalizing row with
  | zero => rfl
  | succ n ih =>
    rw [List.range'_succ, List.map_cons, enact,
      List.filter_cons_of_pos (by exact decide_eq_true reached), List.flatMap_cons]
    refine congrArg (_ ++ ·) ?_
    by_cases cut : (cells row).note = .halt
    · have unreached : ∀ i ∈ List.range' (row + 1) n, ¬ decide (Reached cells i) = true := by
        intro i member reached
        have past : row < i := (List.mem_range'_1.mp member).1
        exact of_decide_eq_true reached row past cut
      rw [if_pos cut, List.filter_eq_nil_iff.mpr unreached]
      rfl
    · have next : Reached cells (row + 1) := fun i bound =>
        (Nat.lt_succ_iff_lt_or_eq.mp bound).elim (reached i) fun same => same ▸ cut
      rw [if_neg cut, ← earlier_succ (fun i => (cells i).volume), ih (row + 1) next]

theorem authored_eq_enact (t : Track) (mode : SfxMode) :
    authored mode t.patternLength (t.cell mode.channel 0)
      = enact mode 0 none (t.column mode.channel 0) := by
  have start := enact_eq_authored mode (t.cell mode.channel 0) t.patternLength 0
    fun _ early => absurd early (Nat.not_lt_zero _)
  rw [Track.column_eq_map, List.range_eq_range', authored, List.range_eq_range']
  exact start.symm

theorem sfxMode?_eq_sourceMode {t : Track}
    (starts : (t.cell .pulse1 0 0).note.isPresent ∨ (t.cell .noise 0 0).note.isPresent) :
    sfxMode? t = some (sourceMode t) := by
  unfold sfxMode? sourceMode
  by_cases pulse : (t.cell .pulse1 0 0).note.isPresent = true
  · simp [SfxMode.all, SfxMode.channel, pulse]
  · have noise := starts.resolve_left pulse
    simp [SfxMode.all, SfxMode.channel, pulse, noise]

theorem mem_of_mem_throughHalt {cells : List Cell} {cell : Cell}
    (member : cell ∈ throughHalt cells) : cell ∈ cells := by
  induction cells with
  | nil => exact member
  | cons first cells ih =>
    rw [throughHalt_cons] at member
    rcases List.mem_cons.mp member with here | later
    · exact here ▸ List.mem_cons_self
    · split_ifs at later
      · exact absurd later List.not_mem_nil
      · exact List.mem_cons_of_mem first (ih later)

/-- Decoding undoes encoding: an effect in which no gap was cut has one cut, which ends it, and
reading it does on every row of its channel, up to the first one with a cut, exactly what the
author meant, and nothing on later rows. -/
theorem encodeSfx_executes_cells {t : Track} (volumes : t.VolumesInRange)
    (starts : (t.cell .pulse1 0 0).note.isPresent ∨ (t.cell .noise 0 0).note.isPresent)
    (fits : ∀ e ∈ (encodeSfx t).errors, ¬ e.isSkipOverflow) :
    (encodeSfx t).value.mode = sourceMode t
      ∧ (∃ body, (encodeSfx t).value.bytes = body ++ [Code.halt]
        ∧ Code.halt ∉ body ∧ ∀ byte ∈ body, SfxByte (sourceMode t) byte)
      ∧ execute 0 ((encodeSfx t).value.bytes.map SfxToken.ofByte)
        = authored (sourceMode t) t.patternLength (t.cell (sourceMode t).channel 0) := by
  generalize chosen : sourceMode t = mode
  have found : sfxMode? t = some mode := chosen ▸ sfxMode?_eq_sourceMode starts
  have readable := readable_writeSfxCells mode (throughHalt (t.column mode.channel 0))
    (fun cell member => by
      have column := mem_of_mem_throughHalt member
      rw [Track.column_eq_map] at column
      obtain ⟨row, -, rfl⟩ := List.mem_map.mp column
      exact volumes.cell mode.channel 0 row)
    0 none .new (fun _ member => absurd member List.not_mem_nil)
  obtain ⟨ts, written, done⟩ := execute_writeSfxCells mode (t.column mode.channel 0) 0 0 none .new
    rfl (fun e member => fits e (by
      simp only [encodeSfx, found]
      exact List.mem_append_left _ (List.mem_append_right _ member)))
  have out : (writeSfxCells mode 0 none .new (throughHalt (t.column mode.channel 0))).1.out = ts :=
    written
  rw [out] at readable
  have value : (encodeSfx t).value = ⟨(ts ++ [SfxToken.halt]).map SfxToken.byte, mode⟩ := by
    simp only [encodeSfx, found, out]
  have bytes : ∀ byte ∈ ts.map SfxToken.byte, SfxByte mode byte :=
    List.forall_mem_map.mpr fun u member => (readable u member).byte
  have read : (ts.map SfxToken.byte).map SfxToken.ofByte = ts := by
    rw [List.map_map]
    exact (List.map_congr_left fun u member => (readable u member).read).trans (List.map_id' ts)
  rw [value]
  refine ⟨rfl, ⟨ts.map SfxToken.byte, List.map_append, ?_, bytes⟩, ?_⟩
  · exact fun member => (bytes _ member).ne_halt rfl
  · rw [List.map_append, List.map_append, read, authored_eq_enact, ← done]
    rfl

/-- Eight rows with a duty that has too many bits, a repeated volume, a refused effect, a release, a
pitch out of range, and a cut with a volume before the last note. -/
def zapTrack : Track :=
  let row (cell : Cell) : PerChannel Cell := Pattern.emptyRow.set .pulse1 cell
  { Track.new "zap" with
    patternLength := 8
    patterns := [⟨[
      row ⟨.tone 4 0, none, some 15, [⟨dutyLetter, 6⟩, ⟨0x51, 1⟩]⟩,
      row ⟨.blank, none, some 15, []⟩,
      row ⟨.release, none, none, []⟩,
      row ⟨.blank, none, none, [⟨dutyLetter, 1⟩]⟩,
      row ⟨.tone 9 11, none, some 7, []⟩,
      row ⟨.tone 5 0, none, none, []⟩,
      row ⟨.halt, none, some 0, []⟩,
      row ⟨.tone 6 0, none, some 3, []⟩]⟩] }

theorem zapTrack_executes_cells :
    (∀ e ∈ (encodeSfx zapTrack).errors, ¬ e.isSkipOverflow)
      ∧ (encodeSfx zapTrack).value.mode = .square
      ∧ execute 0 ((encodeSfx zapTrack).value.bytes.map SfxToken.ofByte)
        = [(0, .duty 2), (0, .volume 15), (0, .pitch 48), (3, .duty 1), (4, .volume 7),
          (5, .pitch 60), (6, .volume 0)] := by
  have fits : ∀ e ∈ (encodeSfx zapTrack).errors, ¬ e.isSkipOverflow := by decide
  have starts : (zapTrack.cell .pulse1 0 0).note.isPresent := by decide
  have volumes : zapTrack.VolumesInRange := by decide
  obtain ⟨mode, -, executed⟩ := encodeSfx_executes_cells volumes (.inl starts) fits
  exact ⟨fits, mode.trans (by decide), executed.trans (by decide)⟩

end TuneBank.Bytecode
