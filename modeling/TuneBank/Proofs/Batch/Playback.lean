import TuneBank.Proofs.Batch.Calls
import TuneBank.Proofs.Export.Invariant
import TuneBank.Proofs.Stream.Clean

/-! Songs in the tables of a finished run. A driver that follows a song's order into the tables
plays what the author wrote, whatever was packed before the song and after it. -/

namespace TuneBank

open Bytecode

/-- The stream that an order names for a voice in a frame. -/
def Pool.stream? (q : Pool) (order : List PackedFrame) (f : Nat) (v : Voice) :
    Option (List UInt8) :=
  order[f]?.bind fun packed => content? q.patterns (packed.get v).toNat

namespace Track

/-- A row that was played is what the cells of a slot hold, for a driver that began the pattern
with the registers `r`. The instrument in its register leads to the macros of the author's
instrument. -/
structure Heard (t : Track) (q : Pool) (r : Registers) (c : Channel) (slot : UInt8) (row : Nat)
    (played : PlayedRow) : Prop where
  effects : played.effects = (t.cell c slot row).effects
  note : played.sound.note c = (t.cell c slot row).note
  volume : played.registers.volume
    = (latest (fun i => (t.cell c slot i).volume) row).getD r.volume
  held : latest (fun i => (t.cell c slot i).instrument) row = none →
    played.registers.instrument = r.instrument
  instrument : ∀ n, latest (fun i => (t.cell c slot i).instrument) row = some n →
    ∃ i, t.instruments[n.toNat]? = some i
      ∧ ∃ references, content? q.instruments played.registers.instrument.toNat = some references
        ∧ ∀ kind, content? q.macros (references.get kind).toNat = some (t.macroOf i kind)

variable {t : Track} {q : Pool} {numbers : List UInt8} {order : List PackedFrame}

theorem Linked.stream? (linked : t.Linked q numbers order) {f : Nat} {frame : Frame}
    (named : t.order[f]? = some frame) (v : Voice) :
    q.stream? order f v = some (encode t numbers v.channel (frame.get v.channel)).value.bytes := by
  have same := congrArg (·[f]?) (linked.order v)
  simp only [List.getElem?_map, named, Option.map_some, Option.map_eq_some_iff] at same
  obtain ⟨packed, there, stream⟩ := same
  rw [Pool.stream?, there, Option.bind_some, stream]

theorem Linked.instrument (linked : t.Linked q numbers order) {n : UInt8}
    (known : n.toNat < numbers.length) :
    ∃ i, t.instruments[n.toNat]? = some i
      ∧ q.meaning? numbers[n.toNat] = some (t.macrosOf i) := by
  have same := congrArg (·[n.toNat]?) (show numbers.map q.meaning? = _ from linked.instruments)
  simp only [List.getElem?_map, List.getElem?_eq_getElem known, Option.map_some] at same
  obtain ⟨i, there, meaning⟩ := Option.map_eq_some_iff.mp same.symm
  exact ⟨i, there, meaning.symm⟩

theorem Linked.heard (linked : t.Linked q numbers order) (exportable : t.Exportable)
    (c : Channel) (slot : UInt8) (clean : (encode t numbers c slot).errors = []) (r : Registers)
    {row : Nat} (bound : row < t.patternLength) :
    t.Heard q r c slot row
      { effects := (t.cell c slot row).effects.filterMap played?
        sound := .ofNote (t.cell c slot row).note
        registers :=
          { volume := (latest (fun i => (t.cell c slot i).volume) row).getD r.volume
            instrument := (latest (fun i => (t.cell c slot i).instrument.bind
              fun number => numbers[number.toNat]?) row).getD r.instrument } } := by
  have plain (i : Nat) (h : i ≤ row) : Plain numbers (t.cell c slot i) :=
    plain_of_encode clean (by omega)
  have here := plain row (Nat.le_refl row)
  have chosen : latest (fun i => (t.cell c slot i).instrument.bind
        fun number => numbers[number.toNat]?) row
      = (latest (fun i => (t.cell c slot i).instrument) row).bind
        fun number => numbers[number.toNat]? :=
    latest_bind fun i h number authored => by
      rw [List.getElem?_eq_getElem ((plain i h).instrument number authored)]
      rfl
  rw [chosen, here.played_effects]
  refine ⟨rfl, here.note c (exportable.cell c slot row).note, rfl,
    fun none => by rw [none]; rfl, fun n authored => ?_⟩
  obtain ⟨i, h, there⟩ := exists_of_latest authored
  have known := (plain i h).instrument n there
  obtain ⟨inst, named, meaning⟩ := linked.instrument known
  obtain ⟨references, found, each⟩ := Pool.meaning?_eq_some_iff.mp meaning
  refine ⟨inst, named, references, ?_, fun kind => ?_⟩
  · rw [authored, Option.bind_some, List.getElem?_eq_getElem known, Option.getD_some]
    exact found
  · rw [each kind, macrosOf, PerKind.get_ofFn]

theorem slot_mem_slots {f : Nat} {frame : Frame} (named : t.order[f]? = some frame) (c : Channel) :
    frame.get c ∈ t.slots c :=
  List.mem_of_getElem? (getElem?_slots (List.mem_of_getElem? named))

end Track

/-- A song that is packed without a report plays back from the tables of the finished run: in every
frame the order leads each voice to a stream that is heard as the cells of its slot. -/
theorem Batch.song_plays_back (before after : List Call) (source text : String)
    (clean : ((new.addAll before).pool.packSong (Export.load text 1).value).2.errors = []) :
    let track := (Export.load text 1).value
    let run := new.addAll (before ++ ⟨.music, source, text⟩ :: after)
    ∃ entry, run.set.songs[(new.addAll before).set.songs.length]? = some entry
      ∧ entry.song.patternLength = track.patternLength
      ∧ entry.song.order.length = track.order.length
      ∧ ∀ f frame, track.order[f]? = some frame → ∀ v : Voice,
        ∃ bytes, run.pool.stream? entry.song.order f v = some bytes
          ∧ ∀ r, ∃ rows, playBytes? r bytes = some rows ∧ rows.length = track.patternLength
            ∧ ∀ row < track.patternLength, ∃ played, rows[row]? = some played
              ∧ track.Heard run.pool r v.channel (frame.get v.channel) row played := by
  intro track run
  let b := new.addAll before
  let packed := b.pool.packSong track
  let b' := (b.addSong source text).1
  have added : run = b'.addAll after := addAll_append new before _
  have later : b'.Extends run := added ▸ extends_addAll b' after
  have linked : track.Linked run.pool (b.pool.instrumentNumbers track) packed.2.value.order :=
    (Pool.packSong_linked (grows_addAll_new before) fun e member => by
      rw [clean] at member
      exact absurd member List.not_mem_nil).grows later.pool
  have exportable : track.Exportable := Export.exportable_load text 1
  have last : b'.set.songs[b.set.songs.length]?
      = some ⟨(Title.assign (b.set.songs.map SongEntry.ident) track.title b.set.songs.length).1,
        packed.2.value⟩ :=
    List.getElem?_concat_length
  obtain ⟨bound, here⟩ := List.getElem?_eq_some_iff.mp last
  refine ⟨_, (List.prefix_iff_getElem?.mp later.songs _ bound).trans (congrArg some here), rfl,
    ?_, fun f frame named v => ⟨_, linked.stream? named v, fun r => ?_⟩⟩
  · simpa using congrArg List.length (linked.order .pulse1)
  · have member := Track.slot_mem_slots named v.channel
    have noReport := Pool.encode_clean_of_packSong clean member
    have fits : ∀ e ∈ (encode track (b.pool.instrumentNumbers track) v.channel
        (frame.get v.channel)).errors, ¬ e.isSkipOverflow := by
      rw [noReport]
      exact fun _ none => absurd none List.not_mem_nil
    refine ⟨_, playBytes?_encode exportable.volumesInRange fits r, by simp, fun row low =>
      ⟨_, getElem?_perform_column track _ v.channel _ r low, ?_⟩⟩
    exact linked.heard exportable v.channel _ noReport r low

namespace Batch

def leadText : String := "MACRO 0 0 0 -1 0 : 9\nINST2A03 0 0 -1 -1 -1 -1 \"\""

def songText : String :=
  "MACRO 0 0 0 -1 0 : 7\nINST2A03 0 0 -1 -1 -1 -1 \"\"\nTRACK 2 6 150\nORDER 0 : 0 0 0 0 0\n"
    ++ "ROW 0 : A-4 0 F B00 : ... .. . : ... .. . : ... .. . : ... .. ."

def songTrack : Track :=
  { Track.new "" with
    patternLength := 2
    macros := ⟨[⟨[7], 0⟩], [], [], [], []⟩
    instruments := [⟨"", ⟨some 0, none, none, none, none⟩⟩]
    order := [⟨0, 0, 0, 0, 0⟩]
    patterns := [⟨[Pattern.emptyRow.set .pulse1 ⟨.tone 4 9, some 0, some 15, [⟨loopLetter, 0⟩]⟩,
      Pattern.emptyRow]⟩] }

theorem load_songText : (Export.load songText 1).value = songTrack := by decide +kernel

def leadCalls : List Call := [⟨.music, "lead", leadText⟩]

def songCalls : List Call := leadCalls ++ ⟨.music, "song", songText⟩ :: [⟨.sfx, "hit", songText⟩]

theorem songText_plays_back :
    ((new.addAll leadCalls).pool.packSong (Export.load songText 1).value).2.errors = []
      ∧ ∃ entry bytes, (new.addAll songCalls).set.songs[1]? = some entry
        ∧ (new.addAll songCalls).pool.stream? entry.song.order 0 .pulse1 = some bytes
        ∧ ∀ r, ∃ rows played references, playBytes? r bytes = some rows
          ∧ rows[1]? = some played ∧ played.registers.volume = 15
          ∧ content? (new.addAll songCalls).pool.instruments played.registers.instrument.toNat
            = some references
          ∧ content? (new.addAll songCalls).pool.macros references.volume.toNat
            = some ⟨[7], 0⟩ := by
  unfold songCalls
  have clean : ((new.addAll leadCalls).pool.packSong (Export.load songText 1).value).2.errors
      = [] := by
    rw [load_songText]
    decide +kernel
  have count : (new.addAll leadCalls).set.songs.length = 1 := by decide +kernel
  have main := song_plays_back leadCalls [⟨.sfx, "hit", songText⟩] "song" songText clean
  simp only [load_songText, count] at main
  obtain ⟨entry, there, -, -, frames⟩ := main
  obtain ⟨bytes, stream, plays⟩ := frames 0 _ rfl .pulse1
  refine ⟨clean, entry, bytes, there, stream, fun r => ?_⟩
  obtain ⟨rows, read, -, each⟩ := plays r
  obtain ⟨played, here, heard⟩ := each 1 (by decide)
  obtain ⟨i, inst, references, found, leads⟩ := heard.instrument 0 (by decide)
  refine ⟨rows, played, references, read, here, heard.volume, found, ?_⟩
  obtain rfl : songTrack.instruments[0] = i := Option.some.inj inst
  exact leads .volume

end Batch

end TuneBank
