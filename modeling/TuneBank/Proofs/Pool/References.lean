import TuneBank.Proofs.Export.Contents
import TuneBank.Proofs.Pool.Linked

/-! The macro numbers of instruments, from the lines of a file to the pool. A number that a line
defines leads to that macro. One that no line defines leads to the neutral macro of its kind, unless
a higher number is defined: then the list of macros was filled up below it, and the filler is found
in its place. -/

namespace TuneBank

namespace Export

/-- The macro that the last line of a file to define the number gives it. -/
def lastMacro? (lines : List String) (kind : MacroKind) (number : Nat) : Option Macro :=
  lastWritten (writesAt (reads (Record.macroEntry? kind)) number) lines

/-- A line of the file defines a higher number. -/
def DefinedAbove (lines : List String) (kind : MacroKind) (number : Nat) : Prop :=
  ∃ higher, number < higher ∧ (lastMacro? lines kind higher).isSome

structure StandsFor (lines : List String) (kind : MacroKind) (number : Nat) (m : Macro) : Prop where
  defined : ∀ authored, lastMacro? lines kind number = some authored → m = authored
  past : lastMacro? lines kind number = none → ¬ DefinedAbove lines kind number → m = kind.neutral
  gap : lastMacro? lines kind number = none → DefinedAbove lines kind number → m = .noop

theorem Shared.standsFor {lines : List String} {t : Track} (h : Shared lines t) {i : Instrument}
    {kind : MacroKind} {number : UInt8} (named : i.macros.get kind = some number) :
    StandsFor lines kind number.toNat (t.macroOf i kind) := by
  have entry (m : Macro) := h.macros kind number.toNat m
  have value : t.macroOf i kind = (t.macros.get kind)[number.toNat]?.getD kind.neutral := by
    rw [Track.macroOf, named, Option.bind_some]
  refine ⟨fun authored found => ?_, fun unwritten last => ?_, fun unwritten higher => ?_⟩
  · rw [value, (entry authored).mpr (.inl found), Option.getD_some]
  · have missing : (t.macros.get kind)[number.toNat]? = none := by
      refine Option.eq_none_iff_forall_ne_some.mpr fun m there => ?_
      rcases (entry m).mp there with found | ⟨-, -, higher⟩
      · exact absurd (found.symm.trans unwritten) (Option.some_ne_none m)
      · exact last higher
    rw [value, missing, Option.getD_none]
  · rw [value, (entry .noop).mpr (.inr ⟨unwritten, rfl, higher⟩), Option.getD_some]

end Export

namespace Pool
open Export

def numberTrack (p : Pool) (t : Track) : Pool × List UInt8 × List PackError :=
  (p.remapMacros t).1.remapInstruments t (p.remapMacros t).2

/-- As long as the pool has numbers left, every macro number of an instrument resolves to the macro
that it stands for in the file. -/
theorem reference_resolves {p : Pool} (grown : seeded.Grows p) (text : String) (wanted : Nat)
    (fits : ∀ e ∈ (p.numberTrack (load text wanted).value).2.2, ¬ e.isPoolOverflow)
    {place : Nat} {i : Instrument} (there : (load text wanted).value.instruments[place]? = some i)
    {kind : MacroKind} {number : UInt8} (named : i.macros.get kind = some number) :
    ∃ byte refs m, (p.numberTrack (load text wanted).value).2.1[place]? = some byte
      ∧ content? (p.numberTrack (load text wanted).value).1.instruments byte.toNat = some refs
      ∧ content? (p.numberTrack (load text wanted).value).1.macros (refs.get kind).toNat = some m
      ∧ StandsFor (Text.lines text) kind number.toNat m := by
  have leads := congrArg (·[place]?) (numbering_instrumentNumbers grown fits)
  simp only [List.getElem?_map, there, Option.map_some, Option.map_eq_some_iff] at leads
  obtain ⟨byte, found, meant⟩ := leads
  obtain ⟨refs, held, each⟩ := meaning?_eq_some_iff.mp meant
  refine ⟨byte, refs, _, found, held, each kind, ?_⟩
  rw [Track.macrosOf, PerKind.get_ofFn]
  exact (shared_load text wanted).standsFor named

/-- The instrument names a volume macro that a line defines. -/
def definedVolume : String := "MACRO 0 1 0 -1 0 : 9\nINST2A03 0 1 -1 -1 -1 -1 \"\""

def definedVolumeTrack : Track :=
  { Track.new "" with
    macros := ⟨[.noop, ⟨[9], 0⟩], [], [], [], []⟩
    instruments := [⟨"", ⟨some 1, none, none, none, none⟩⟩] }

theorem load_definedVolume : (load definedVolume 1).value = definedVolumeTrack := by
  decide +kernel

theorem definedVolume_resolves :
    ∃ byte refs m, (seeded.numberTrack definedVolumeTrack).2.1[0]? = some byte
      ∧ content? (seeded.numberTrack definedVolumeTrack).1.instruments byte.toNat = some refs
      ∧ content? (seeded.numberTrack definedVolumeTrack).1.macros refs.volume.toNat = some m
      ∧ StandsFor (Text.lines definedVolume) .volume 1 m := by
  have fits : ∀ e ∈ (seeded.numberTrack (load definedVolume 1).value).2.2, ¬ e.isPoolOverflow := by
    rw [load_definedVolume]
    decide +kernel
  have there : (load definedVolume 1).value.instruments[0]?
      = some ⟨"", ⟨some 1, none, none, none, none⟩⟩ := by
    rw [load_definedVolume]
    rfl
  have named : (⟨some 1, none, none, none, none⟩ : PerKind (Option UInt8)).get .volume = some 1 :=
    rfl
  have main := reference_resolves (Grows.refl seeded) definedVolume 1 fits there named
  rw [load_definedVolume] at main
  exact main

/-- The instrument names a volume macro that no line defines, below one that a line does. -/
def gappedVolumes : String := "MACRO 0 1 0 -1 0 : 9\nINST2A03 0 0 -1 -1 -1 -1 \"\""

theorem gap_in_volumes_mutes :
    lastMacro? (Text.lines gappedVolumes) .volume 0 = none
      ∧ (load gappedVolumes 1).value.instruments.map (·.macros.get .volume) = [some 0]
      ∧ (seeded.numberTrack (load gappedVolumes 1).value).2 = ([0], [])
      ∧ (seeded.numberTrack (load gappedVolumes 1).value).1.meaning? 0
        = some ⟨.noop, .noop, .noop, .noop, .noop⟩
      ∧ MacroKind.volume.neutral ≠ .noop := by
  decide +kernel

end Pool
end TuneBank
