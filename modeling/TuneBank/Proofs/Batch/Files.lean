import Mathlib.Data.List.Nodup
import TuneBank.Files.Disk
import TuneBank.Proofs.Batch.Interleaving
import TuneBank.Proofs.Text.Numeral
import TuneBank.Run

/-! Runs that use the text exports as they are, over any store whose reads leave it alone. Such a
run adds the texts that it can read, one after another, as if they had been given to it; a text
that it cannot read leaves one section in the report and nothing else. -/

namespace TuneBank

namespace Path

theorem join_inj {directory first second : String} :
    join directory first = join directory second ↔ first = second := by
  unfold join
  split_ifs <;> exact String.append_right_inj _

end Path

namespace SourceKind

def names : SourceKind → List String
  | music => (List.range 100).map fun n => "music_" ++ Text.twoDigits n
  | sfx => (List.range' 1 99).map fun n => "sfx_" ++ Text.twoDigits n

theorem nodup_names (kind : SourceKind) : kind.names.Nodup := by
  have inj (stem : String) : Function.Injective fun n => stem ++ Text.twoDigits n :=
    fun _ _ same => Text.twoDigits_inj ((String.append_right_inj stem).mp same)
  cases kind with
  | music => exact List.nodup_range.map (inj "music_")
  | sfx => exact (List.nodup_range' 1 Nat.one_pos).map (inj "sfx_")

theorem head?_of_mem_names {kind : SourceKind} {name : String} (member : name ∈ kind.names) :
    name.toList.head? = kind.stem.toList.head? := by
  cases kind with
  | music =>
    obtain ⟨n, -, rfl⟩ := List.mem_map.mp member
    simp [stem]
  | sfx =>
    obtain ⟨n, -, rfl⟩ := List.mem_map.mp member
    simp [stem]

theorem names_disjoint : SourceKind.music.names.Disjoint SourceKind.sfx.names := by
  intro name music sfx
  have first := (head?_of_mem_names music).symm.trans (head?_of_mem_names sfx)
  exact absurd first (by decide)

end SourceKind

structure TextExport where
  kind : SourceKind
  path : String
  deriving DecidableEq

namespace Source

def textExport (s : Source) : TextExport := ⟨s.kind, s.text⟩

theorem map_candidates (kind : SourceKind) (inputDir outputDir : String) :
    (candidates kind inputDir outputDir).map (fun s => (s.file, s.textExport))
      = kind.names.map fun name =>
          (Path.join inputDir (name ++ ".ftm"), ⟨kind, Path.join outputDir (name ++ ".txt")⟩) := by
  cases kind with
  | music =>
    rw [candidates, SourceKind.names, List.map_map, List.map_map]
    rfl
  | sfx =>
    have numbers : (List.range numberLimit).drop SourceKind.sfx.firstNumber = List.range' 1 99 := by
      decide
    rw [candidates, SourceKind.names, numbers, List.map_map, List.map_map]
    rfl

end Source

structure FileView where
  readText : String → Except FileError String
  modified : String → Except FileError Int

namespace FileView
variable (v : FileView) (settings : Settings)

/-- The names of a kind before the first whose source is missing. -/
def namesOf (kind : SourceKind) : List String :=
  kind.names.takeWhile fun name =>
    (v.modified (Path.join settings.inputDir (name ++ ".ftm"))).isOk

def exportsOf (kind : SourceKind) : List TextExport :=
  (v.namesOf settings kind).map fun name => ⟨kind, Path.join settings.outputDir (name ++ ".txt")⟩

def exports : List TextExport := v.exportsOf settings .music ++ v.exportsOf settings .sfx

/-- An export as a call, if it can be read. -/
def call? (e : TextExport) : Option Batch.Call :=
  (v.readText e.path).toOption.map fun text => ⟨e.kind, e.path, text⟩

theorem map_takeWhile_candidates (kind : SourceKind) :
    ((Source.candidates kind settings.inputDir settings.outputDir).takeWhile fun s =>
        (v.modified s.file).isOk).map Source.textExport = v.exportsOf settings kind := by
  have found := congrArg (List.takeWhile fun p : String × TextExport => (v.modified p.1).isOk)
    (Source.map_candidates kind settings.inputDir settings.outputDir)
  rw [List.takeWhile_map, List.takeWhile_map] at found
  have exports := congrArg (List.map Prod.snd) found
  rwa [List.map_map, List.map_map] at exports

theorem nodup_paths_exports : ((v.exports settings).map TextExport.path).Nodup := by
  let path (name : String) := Path.join settings.outputDir (name ++ ".txt")
  have inj : Function.Injective path := fun _ _ same =>
    (String.append_left_inj _).mp (Path.join_inj.mp same)
  have paths (kind : SourceKind) :
      (v.exportsOf settings kind).map TextExport.path = (v.namesOf settings kind).map path := by
    rw [exportsOf, List.map_map]
    rfl
  have each (kind : SourceKind) : (v.namesOf settings kind).Sublist kind.names :=
    List.takeWhile_sublist _
  have names : (v.namesOf settings .music ++ v.namesOf settings .sfx).Nodup := by
    refine List.Nodup.append ((SourceKind.nodup_names .music).sublist (each .music))
      ((SourceKind.nodup_names .sfx).sublist (each .sfx)) ?_
    exact List.disjoint_of_subset_left (each .music).subset
      (List.disjoint_of_subset_right (each .sfx).subset SourceKind.names_disjoint)
  rw [exports, List.map_append, paths, paths, ← List.map_append]
  exact names.map inj

end FileView

namespace Batch

def withReport (b : Batch) (r : Report) : Batch := ⟨{ b.set with report := r }⟩

theorem apply_withReport (b : Batch) (r : Report) (call : Call) :
    (b.withReport r).apply call
      = ((b.apply call).1.withReport ⟨r.sections ++ (b.apply call).2.sections⟩,
        (b.apply call).2) := by
  cases call with | mk kind source text =>
  cases kind with
  | music =>
    simp only [apply_music, ← sections_reportSource r]
    rfl
  | sfx =>
    simp only [apply_sfx, ← sections_reportSource r]
    rfl

theorem source_of_mem_add {r : Report} {heading source : String} {lines : List String}
    (others : ∀ s ∈ r.sections, s.source = source) :
    ∀ s ∈ (r.add heading source lines).sections, s.source = source := by
  unfold Report.add
  split_ifs
  · exact others
  · exact fun s member => (List.mem_append.mp member).elim (others s)
      fun last => congrArg Section.source (List.mem_singleton.mp last)

theorem source_of_mem_apply {b : Batch} {call : Call} :
    ∀ s ∈ (b.apply call).2.sections, s.source = call.source := by
  have stages (load : List Export.ImportError) (pack : List PackError)
      (title : List TitleWarning) :
      ∀ s ∈ (reportSource .empty call.source load pack title).sections, s.source = call.source :=
    source_of_mem_add (source_of_mem_add (source_of_mem_add fun _ member =>
      absurd member List.not_mem_nil))
  cases call with | mk kind source text =>
  cases kind with
  | music => exact apply_music b source text ▸ stages _ _ _
  | sfx => exact apply_sfx b source text ▸ stages _ _ _

/-- What the report says of a source whose export cannot be read. -/
def unreadable (e : TextExport) (cause : FileError) : Section :=
  ⟨loadHeading, e.path, ["failed to read text export: " ++ cause.message]⟩

def addFrom (v : FileView) (b : Batch) (e : TextExport) : Batch :=
  match v.readText e.path with
  | .ok text => (b.add e.kind e.path text).1
  | .error cause => b.withReport ⟨b.report.sections ++ [unreadable e cause]⟩

def sectionsFrom (v : FileView) : Batch → List TextExport → List Section
  | _, [] => []
  | b, e :: rest =>
    match v.readText e.path with
    | .ok text =>
      let (later, outcome) := b.apply ⟨e.kind, e.path, text⟩
      outcome.sections ++ sectionsFrom v later rest
    | .error cause => unreadable e cause :: sectionsFrom v b rest

section
variable {v : FileView} {b : Batch} {e : TextExport} {rest : List TextExport} {text : String}
  {cause : FileError}

theorem call?_of_ok (read : v.readText e.path = .ok text) :
    v.call? e = some ⟨e.kind, e.path, text⟩ := by
  rw [FileView.call?, read]
  rfl

theorem call?_of_error (failed : v.readText e.path = .error cause) : v.call? e = none := by
  rw [FileView.call?, failed]
  rfl

theorem addFrom_of_ok (read : v.readText e.path = .ok text) (r : Report) :
    addFrom v (b.withReport r) e = (b.apply ⟨e.kind, e.path, text⟩).1.withReport
      ⟨r.sections ++ (b.apply ⟨e.kind, e.path, text⟩).2.sections⟩ := by
  rw [addFrom, read]
  exact congrArg Prod.fst (apply_withReport b r ⟨e.kind, e.path, text⟩)

theorem addFrom_of_error (failed : v.readText e.path = .error cause) (r : Report) :
    addFrom v (b.withReport r) e = b.withReport ⟨r.sections ++ [unreadable e cause]⟩ := by
  rw [addFrom, failed]
  rfl

theorem sectionsFrom_of_ok (read : v.readText e.path = .ok text) :
    sectionsFrom v b (e :: rest) = (b.apply ⟨e.kind, e.path, text⟩).2.sections
      ++ sectionsFrom v (b.apply ⟨e.kind, e.path, text⟩).1 rest := by
  rw [sectionsFrom, read]

theorem sectionsFrom_of_error (failed : v.readText e.path = .error cause) :
    sectionsFrom v b (e :: rest) = unreadable e cause :: sectionsFrom v b rest := by
  rw [sectionsFrom, failed]

end

theorem foldl_addFrom (v : FileView) (b : Batch) (r : Report) (exports : List TextExport) :
    exports.foldl (addFrom v) (b.withReport r)
      = (b.addAll (exports.filterMap v.call?)).withReport
        ⟨r.sections ++ sectionsFrom v b exports⟩ := by
  induction exports generalizing b r with
  | nil => rw [sectionsFrom, List.append_nil]; rfl
  | cons e rest ih =>
    rw [List.foldl_cons]
    cases found : v.readText e.path with
    | ok text =>
      rw [addFrom_of_ok found, ih, sectionsFrom_of_ok found,
        List.filterMap_cons_some (call?_of_ok found), addAll_cons, ← List.append_assoc]
    | error cause =>
      rw [addFrom_of_error found, ih, sectionsFrom_of_error found,
        List.filterMap_cons_none (call?_of_error found), List.append_assoc, List.singleton_append]

theorem filter_sectionsFrom_readable (v : FileView) (b : Batch) (exports : List TextExport) :
    (sectionsFrom v b exports).filter (fun x => (v.readText x.source).isOk)
      = (b.outcomes (exports.filterMap v.call?)).flatMap Outcome.sections := by
  induction exports generalizing b with
  | nil => rfl
  | cons e rest ih =>
    cases found : v.readText e.path with
    | ok text =>
      have kept : ∀ x ∈ (b.apply ⟨e.kind, e.path, text⟩).2.sections,
          (v.readText x.source).isOk = true := fun x member => by
        rw [source_of_mem_apply x member, found]
        rfl
      rw [sectionsFrom_of_ok found, List.filterMap_cons_some (call?_of_ok found), outcomes,
        List.flatMap_cons, List.filter_append, List.filter_eq_self.mpr kept, ih]
    | error cause =>
      have dropped : ¬ (v.readText (unreadable e cause).source).isOk = true := by
        rw [unreadable, found]
        exact Bool.false_ne_true
      rw [sectionsFrom_of_error found, List.filterMap_cons_none (call?_of_error found),
        List.filter_cons_of_neg (by exact dropped), ih]

theorem source_of_mem_sectionsFrom {v : FileView} {b : Batch} {exports : List TextExport} :
    ∀ x ∈ sectionsFrom v b exports, x.source ∈ exports.map TextExport.path := by
  induction exports generalizing b with
  | nil => exact fun _ member => absurd member List.not_mem_nil
  | cons e rest ih =>
    intro x member
    rw [List.map_cons, List.mem_cons]
    cases found : v.readText e.path with
    | ok text =>
      rw [sectionsFrom_of_ok found, List.mem_append] at member
      exact member.imp (source_of_mem_apply x) (ih x)
    | error cause =>
      rw [sectionsFrom_of_error found, List.mem_cons] at member
      exact member.imp (fun here => congrArg Section.source here) (ih x)

theorem filter_sectionsFrom_unreadable {v : FileView} (b : Batch) {exports : List TextExport}
    (distinct : (exports.map TextExport.path).Nodup) {e : TextExport} (member : e ∈ exports)
    {cause : FileError} (failed : v.readText e.path = .error cause) :
    (sectionsFrom v b exports).filter (·.source = e.path) = [unreadable e cause] := by
  induction exports generalizing b with
  | nil => exact absurd member List.not_mem_nil
  | cons first rest ih =>
    obtain ⟨apart, distinct⟩ := List.nodup_cons.mp distinct
    rcases List.mem_cons.mp member with rfl | later
    · have others : ∀ x ∈ sectionsFrom v b rest, ¬ decide (x.source = e.path) = true :=
        fun x there same => apart (of_decide_eq_true same ▸ source_of_mem_sectionsFrom x there)
      rw [sectionsFrom_of_error failed, List.filter_cons_of_pos (by exact decide_eq_true rfl),
        List.filter_eq_nil_iff.mpr others]
    · have other : first.path ≠ e.path := fun same =>
        apart (same ▸ List.mem_map_of_mem later)
      cases found : v.readText first.path with
      | ok text =>
        have none : ∀ x ∈ (b.apply ⟨first.kind, first.path, text⟩).2.sections,
            ¬ decide (x.source = e.path) = true := fun x there same =>
          other ((source_of_mem_apply x there).symm.trans (of_decide_eq_true same))
        rw [sectionsFrom_of_ok found, List.filter_append, List.filter_eq_nil_iff.mpr none,
          List.nil_append, ih _ distinct later]
      | error reason =>
        rw [sectionsFrom_of_error found,
          List.filter_cons_of_neg (by exact fun same => other (of_decide_eq_true same)),
          ih _ distinct later]

end Batch

/-! The steps of a run -/

/-- What a store shows in a state. -/
def FileView.of {σ : Type} [FileStore (StateM σ)] (s : σ) : FileView where
  readText path := ((FileStore.readText path : StateM σ (Except FileError String)).run s).1
  modified path := ((FileStore.modified path : StateM σ (Except FileError Int)).run s).1

structure ReadsOnly (σ : Type) [FileStore (StateM σ)] : Prop where
  readText : ∀ path (s : σ),
    ((FileStore.readText path : StateM σ (Except FileError String)).run s).2 = s
  modified : ∀ path (s : σ),
    ((FileStore.modified path : StateM σ (Except FileError Int)).run s).2 = s

theorem Disk.readsOnly : ReadsOnly Disk := ⟨fun _ _ => rfl, fun _ _ => rfl⟩

namespace Batch

section
variable {σ : Type} [FileStore (StateM σ)] (still : ReadsOnly σ) (s : σ)
include still

theorem run_exists (path : String) :
    (FileStore.exists path : StateM σ Bool).run s = (((FileView.of s).modified path).isOk, s) :=
  Prod.ext rfl (still.modified path s)

theorem run_readText (path : String) :
    (FileStore.readText path : StateM σ (Except FileError String)).run s
      = ((FileView.of s).readText path, s) :=
  Prod.ext rfl (still.readText path s)

theorem run_present (sources : List Source) :
    (Source.present sources : StateM σ (List Source)).run s
      = (sources.takeWhile fun x => ((FileView.of s).modified x.file).isOk, s) := by
  induction sources with
  | nil => rfl
  | cons x rest ih =>
    rw [Source.present, StateT.run_bind, run_exists still, List.takeWhile_cons]
    cases ((FileView.of s).modified x.file).isOk with
    | true => exact congrArg (fun found => (x :: found.1, found.2)) ih
    | false => rfl

theorem run_addExport (b : Batch) (x : Source) :
    (b.addExport x : StateM σ Batch).run s = (addFrom (.of s) b x.textExport, s) := by
  rw [addExport, StateT.run_bind, run_readText still, addFrom]
  change StateT.run (match (FileView.of s).readText x.text with | _ => _) s = _
  have path : x.textExport.path = x.text := rfl
  rw [path]
  cases (FileView.of s).readText x.text with
  | ok text => rfl
  | error cause => rfl

theorem run_addSources (b : Batch) (sources : List Source) :
    (b.addSources none sources : StateM σ (Except RunError Unit × Batch)).run s
      = ((.ok (), (sources.map Source.textExport).foldl (addFrom (.of s)) b), s) := by
  induction sources generalizing b with
  | nil => rfl
  | cons x rest ih =>
    rw [addSources, StateT.run_bind, run_addExport still]
    exact ih (addFrom (.of s) b x.textExport)

theorem run_addKind (b : Batch) (settings : Settings) (kind : SourceKind) :
    (Source.discover kind settings.inputDir settings.outputDir >>= b.addSources none
        : StateM σ (Except RunError Unit × Batch)).run s
      = ((.ok (), ((FileView.of s).exportsOf settings kind).foldl (addFrom (.of s)) b), s) := by
  rw [StateT.run_bind, Source.discover, run_present still, ← FileView.map_takeWhile_candidates]
  exact run_addSources still s b _

end

/-- The exports that could be read were added in their order, and the report has one section for
each of the others. -/
structure Added (v : FileView) (exports : List TextExport) (b : Batch) : Prop where
  steps : b = exports.foldl (addFrom v) new
  tables : b.set = { (new.addAll (exports.filterMap v.call?)).set with report := b.report }
  report : b.report.sections.filter (fun x => (v.readText x.source).isOk)
    = (new.addAll (exports.filterMap v.call?)).report.sections
  unread : ∀ e ∈ exports, ∀ cause, v.readText e.path = .error cause →
    b.report.sections.filter (·.source = e.path) = [unreadable e cause]

theorem added_foldl {v : FileView} {exports : List TextExport}
    (distinct : (exports.map TextExport.path).Nodup) :
    Added v exports (exports.foldl (addFrom v) new) := by
  have whole : exports.foldl (addFrom v) new
      = (new.addAll (exports.filterMap v.call?)).withReport ⟨sectionsFrom v new exports⟩ :=
    foldl_addFrom v new .empty exports
  refine ⟨rfl, ?_, ?_, fun e member cause failed => ?_⟩
  · rw [whole]
    rfl
  · rw [whole, sections_addAll]
    exact filter_sectionsFrom_readable v new exports
  · rw [whole]
    exact filter_sectionsFrom_unreadable new distinct member failed

/-- A run over files that does not export anything adds what is in them. -/
theorem run_adds_files {σ : Type} [FileStore (StateM σ)] (still : ReadsOnly σ)
    (exporter : Exporter (StateM σ)) {settings : Settings} (skip : settings.skipExport) {s : σ}
    (made : ((FileStore.makeDirectories settings.outputDir
      : StateM σ (Except FileError Unit)).run s).1 = .ok ()) :
    ∃ s' b, (FileStore.makeDirectories settings.outputDir
        : StateM σ (Except FileError Unit)).run s = (.ok (), s')
      ∧ (new.run settings exporter).run s = ((.ok (), b), s')
      ∧ Added (.of s') ((FileView.of s').exports settings) b := by
  obtain ⟨s', there⟩ : ∃ s', (FileStore.makeDirectories settings.outputDir
      : StateM σ (Except FileError Unit)).run s = (.ok (), s') := ⟨_, Prod.ext made rfl⟩
  let v := FileView.of s'
  refine ⟨s', (v.exports settings).foldl (addFrom v) new, there, ?_,
    added_foldl (v.nodup_paths_exports settings)⟩
  have music := run_addKind still s' new settings .music
  have sfx := run_addKind still s' ((v.exportsOf settings .music).foldl (addFrom v) new)
    settings .sfx
  rw [run, skip, StateT.run_bind, there, FileView.exports, List.foldl_append]
  change StateT.run ((Source.discover .music settings.inputDir settings.outputDir
    >>= new.addSources none) >>= _) s' = _
  rw [StateT.run_bind, music]
  exact sfx

/-- Three songs, the second without a sound text and the third after a gap, and a sound effect that
was never exported. -/
def gapDisk : Disk :=
  let file (text : String) : Node := .file text.toUTF8.toList 0 false
  { root := .directory 0
      [ ("in", .directory 0
          [ ("music_00.ftm", file ""), ("music_01.ftm", file ""), ("music_03.ftm", file ""),
            ("sfx_01.ftm", file "") ]),
        ("out", .directory 0
          [ ("music_00.txt", file "TITLE \"cave\""), ("music_01.txt", .file [0xFF] 0 false),
            ("music_03.txt", file "TITLE \"lava\"") ]) ]
    home := []
    now := 0 }

def gapSettings : Settings := ⟨"in", "out", "DATA", "FamiTracker.exe", true⟩

theorem makeDirectories_gapDisk : gapDisk.makeDirectories "out" = (.ok (), gapDisk) := by
  have ensured : gapDisk.ensureDirectory "out" ["out"] = .ok gapDisk := rfl
  have names : Path.names "out" = ["out"] := by decide
  have checked : Disk.checkPath "out" = .ok () := rfl
  simp [Disk.makeDirectories, checked, names, Disk.makeAll, ensured]

theorem gapDisk_adds_files :
    ∃ b : Batch, (new.run gapSettings fun _ => return .ok () : StateM Disk _).run gapDisk
        = ((.ok (), b), gapDisk)
      ∧ b.set = { (new.addAll [⟨.music, "out/music_00.txt", "TITLE \"cave\""⟩]).set with
          report := b.report }
      ∧ b.report.sections.filter (·.source = "out/music_01.txt")
        = [⟨"Load errors for", "out/music_01.txt",
            ["failed to read text export: stream did not contain valid UTF-8"]⟩]
      ∧ b.report.sections.filter (·.source = "out/sfx_01.txt")
        = [⟨"Load errors for", "out/sfx_01.txt",
            ["failed to read text export: No such file or directory (os error 2)"]⟩] := by
  have made : ((FileStore.makeDirectories gapSettings.outputDir
      : StateM Disk (Except FileError Unit)).run gapDisk).1 = .ok () :=
    congrArg Prod.fst makeDirectories_gapDisk
  obtain ⟨d, b, there, ran, added⟩ := run_adds_files Disk.readsOnly (fun _ => return .ok ())
    (rfl : gapSettings.skipExport) made
  obtain rfl : gapDisk = d := congrArg Prod.snd (makeDirectories_gapDisk.symm.trans there)
  have exports : (FileView.of gapDisk).exports gapSettings = [⟨.music, "out/music_00.txt"⟩,
      ⟨.music, "out/music_01.txt"⟩, ⟨.sfx, "out/sfx_01.txt"⟩] := by
    decide +kernel
  have read : (FileView.of gapDisk).readText "out/music_00.txt" = .ok "TITLE \"cave\"" := by
    decide +kernel
  have broken : (FileView.of gapDisk).readText "out/music_01.txt" = .error .notText := by
    decide +kernel
  have missing : (FileView.of gapDisk).readText "out/sfx_01.txt" = .error .notFound := by
    decide +kernel
  rw [exports] at added
  refine ⟨b, ran, ?_, ?_, ?_⟩
  · have tables := added.tables
    rw [List.filterMap_cons_some (call?_of_ok read),
      List.filterMap_cons_none (call?_of_error broken),
      List.filterMap_cons_none (call?_of_error missing)] at tables
    exact tables
  · exact added.unread ⟨.music, "out/music_01.txt"⟩ (by simp) _ broken
  · have message : FileError.notFound.message = "No such file or directory (os error 2)" := by
      decide +kernel
    have noted := added.unread ⟨.sfx, "out/sfx_01.txt"⟩ (by simp) _ missing
    rw [unreadable, message] at noted
    exact noted

end Batch
end TuneBank
