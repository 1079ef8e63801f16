import TuneBank.Proofs.Export.Printer
import TuneBank.Proofs.Export.Reading

/-! A file in print is imported again, whichever of its tracks is wanted. -/

namespace TuneBank.Export

open List (Forall₂)
open Import

theorem unbroken_of_prints {rs : List Record} {lines : List String} (h : Forall₂ Prints rs lines)
    (fits : ∀ r ∈ rs, r.Printable) : ∀ line ∈ lines, Text.Unbroken line := by
  induction h with
  | nil => exact fun _ member => absurd member List.not_mem_nil
  | cons printed _ ih =>
    obtain ⟨first, later⟩ := List.forall_mem_cons.mp fits
    exact List.forall_mem_cons.mpr ⟨(decode_of_prints printed first).2, ih later⟩

theorem prints_print {f : File} (exportable : f.Exportable) : f.Prints f.print := by
  refine ⟨f.records.map Record.line, ?_, rfl⟩
  exact List.forall₂_map_right_iff.mpr (List.forall₂_same.mpr fun r member =>
    Record.prints_line (printable_records exportable r member))

def File.opened (f : File) : Import :=
  { Import.start with
    track := { Track.new f.title with macros := f.macros, instruments := f.instruments }
    titled := true }

theorem readRecords_file {f : File} (exportable : f.Exportable) (wanted n : Nat) :
    ∃ m, Import.start.readRecords wanted n f.records
      = f.opened.readRecords wanted m (f.sections.flatMap Section.records) := by
  let titled : Import := { Import.start with track := Track.new f.title, titled := true }
  have title : Import.start.readRecord wanted n (.title f.title) = titled :=
    readRecord_of_unsectioned rfl
  let defined : Import := { titled with track := { titled.track with macros := f.macros } }
  have macros (line : Nat) : titled.readRecords wanted line (MacroKind.all.flatMap fun kind =>
      numbered (macroRecords kind) 0 (f.macros.get kind)) = defined :=
    readRecords_allMacros exportable.fewMacros exportable.macros rfl line
  have instruments (line : Nat) : defined.readRecords wanted line
      (numbered instrumentRecords 0 f.instruments) = f.opened :=
    readRecords_instruments rfl exportable.fewInstruments line
  rw [File.records, readRecords, title, readRecords_append, macros, readRecords_append, instruments]
  exact ⟨_, rfl⟩

/-- Printing a file and importing one of its tracks gives exactly that track, without a report. -/
theorem load_prints {f : File} (exportable : f.Exportable) {text : String} (printed : f.Prints text)
    {k : Nat} {sec : Section} (selected : f.sections[k]? = some sec) :
    load text (k + 1) = ⟨f.track sec, []⟩ := by
  obtain ⟨lines, prints, rfl⟩ := printed
  have fits := printable_records exportable
  obtain ⟨m, file⟩ := readRecords_file exportable (k + 1) 1
  obtain ⟨bound, here⟩ := List.getElem?_eq_some_iff.mp selected
  have split : f.sections = f.sections.take k ++ sec :: f.sections.drop (k + 1) := by
    rw [← here, ← List.drop_eq_getElem_cons bound, List.take_append_drop]
  have before : (f.sections.take k).length = k := List.length_take_of_le (Nat.le_of_lt bound)
  have member : sec ∈ f.sections := List.mem_of_getElem? selected
  have first (n : Nat) : f.opened.readRecords (k + 1) n
      ((f.sections.take k).flatMap Section.records) = { f.opened with tracksSeen := k } := by
    have other : ∀ i < (f.sections.take k).length, f.opened.tracksSeen + (i + 1) ≠ k + 1 := by
      intro i low
      change 0 + (i + 1) ≠ k + 1
      omega
    rw [readRecords_otherSections _ _ other, before]
    exact congrArg (fun seen => { f.opened with tracksSeen := seen }) (Nat.zero_add k)
  obtain ⟨slot, wanted⟩ := readRecords_wantedSection (s := { f.opened with tracksSeen := k })
    (exportable.sections sec member) rfl rfl rfl (m + ((f.sections.take k).flatMap
      Section.records).length)
  let read : Import := { f.opened with track := f.track sec, tracksSeen := k + 1, slot := slot }
  have last (n : Nat) : read.readRecords (k + 1) n
      ((f.sections.drop (k + 1)).flatMap Section.records)
        = { read with tracksSeen := k + 1 + (f.sections.drop (k + 1)).length } := by
    refine readRecords_otherSections _ read (fun i _ => ?_) n
    change k + 1 + (i + 1) ≠ k + 1
    omega
  rw [load, Text.lines_unlines (unbroken_of_prints prints fits), readLines_of_prints prints fits,
    file, split, List.flatMap_append, readRecords_append, first, List.flatMap_cons,
    readRecords_append, wanted]
  refine (congrArg (Import.finish (k + 1)) (last _)).trans ?_
  exact finish_of_found rfl rfl (Nat.le_add_right _ _)

/-- Two short tracks with quotes and blanks in names. -/
def pairFile : File where
  title := "the \"short\" ones"
  macros := ⟨[⟨[15, -3], 1⟩], [], [], [], [⟨[2], 0⟩]⟩
  instruments := [⟨"bell  \"a\"", ⟨some 0, none, none, none, some 0⟩⟩]
  sections := [
    ⟨"", 1, 6, [⟨0, 0, 0, 0, 0⟩], [Pattern.empty 1]⟩,
    ⟨"second", 2, 3, [⟨1, 0, 0, 1, 0⟩, ⟨0, 0, 0, 0, 0⟩],
      [Pattern.empty 2,
        (Pattern.empty 2).setRow 1
          ⟨⟨.tone 3 1, some 0, some 15, [⟨66, 0⟩]⟩, .empty, .empty, ⟨.noise 11, none, some 0, []⟩,
            .empty⟩]⟩]

theorem pairFile_exportable : pairFile.Exportable := by decide

theorem load_pairFile :
    pairFile.Prints pairFile.print
      ∧ load pairFile.print 2 = ⟨pairFile.track pairFile.sections[1], []⟩ :=
  ⟨prints_print pairFile_exportable,
    load_prints (k := 1) pairFile_exportable (prints_print pairFile_exportable) rfl⟩

end TuneBank.Export
