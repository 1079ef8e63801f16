import TuneBank.Listing.Symbols
import TuneBank.Proofs.Batch.Calls
import TuneBank.Proofs.Listing.Operands
import TuneBank.Proofs.Text.Symbol

/-! The symbols that a run defines. The symbols of the songs are all different, and so are those of
the sound effects; with the counts and the modes they share one name space, and there a title can
name a count or a mode. `symbols_distinct_iff` says that nothing else is ever defined twice. -/

namespace TuneBank

structure PackedSet.Named (set : PackedSet) : Prop where
  songs : Title.Issued (set.songs.map SongEntry.ident)
  sfx : Title.Issued set.sfxIdents

namespace PackedSet.Named

theorem new : Batch.new.set.Named where
  songs := ⟨List.nodup_nil, fun _ member => absurd member List.not_mem_nil⟩
  sfx := ⟨List.nodup_singleton _, List.forall_mem_singleton.mpr (Title.symbol_sanitize "NONE")⟩

variable {b : Batch} (h : b.set.Named)
include h

theorem add (call : Batch.Call) : (b.add call.kind call.source call.text).1.set.Named := by
  cases call.kind with
  | music =>
    refine ⟨?_, h.sfx⟩
    have issued := h.songs.assign (Export.load call.text 1).value.title b.set.songs.length
    simpa [Batch.add, Batch.addSong] using issued
  | sfx => exact ⟨h.songs, h.sfx.assign _ _⟩

theorem addAll (calls : List Batch.Call) : (b.addAll calls).set.Named := by
  induction calls generalizing b with
  | nil => exact h
  | cons call calls ih => exact ih (h.add call)

end PackedSet.Named

namespace Listing

def Statement.symbol? (s : Statement) : Option String := s.constant?.map Prod.fst

/-- The symbols that a listing defines, line by line. -/
def definedSymbols? (text : String) : Option (List String) :=
  ((Text.lines text).mapM statement?).map (·.filterMap Statement.symbol?)

def defined (ls : List Line) : List String := ls.filterMap (·.statement.symbol?)

theorem definedSymbols?_text {ls : List Line} (h : ∀ l ∈ ls, l.Readable) :
    definedSymbols? (text ls) = some (defined ls) := by
  rw [definedSymbols?, mapM_statement?_text h, Option.map_some, List.filterMap_map]
  rfl

theorem defined_append (first second : List Line) :
    defined (first ++ second) = defined first ++ defined second :=
  List.filterMap_append

theorem defined_mapIdx {α : Type} (name value : Nat → α → String) (as : List α) :
    defined (as.mapIdx fun i a => .constant (name i a) (value i a)) = as.mapIdx name := by
  induction as generalizing name value with
  | nil => rfl
  | cons a as ih =>
    rw [List.mapIdx_cons, List.mapIdx_cons, ← ih _ fun i => value (i + 1)]
    rfl

theorem defined_enumeration (stem : String) (names : List String) :
    defined (enumeration stem names) = names.map (stem ++ ·) := by
  have directives : defined [.directive ".enum"] = [] ∧ defined [.directive ".endenum"] = [] :=
    ⟨rfl, rfl⟩
  rw [enumeration, List.cons_append, ← List.singleton_append, defined_append, defined_append,
    defined_mapIdx, directives.1, directives.2, List.nil_append, List.append_nil]
  exact List.ext_getElem (by simp) fun i _ _ => by simp

/-- The symbols of a run: two counts, the songs, the sound effects and their modes. -/
def symbolNames (set : PackedSet) : List String :=
  ["MUSIC_COUNT", "SFX_COUNT"] ++ (set.songs.map SongEntry.ident).map ("MUSIC_" ++ ·)
    ++ set.sfxIdents.map ("SOUND_" ++ ·)
    ++ (List.range set.pool.sfx.length).map ("SOUND_MODE__" ++ Text.decimal ·)

theorem defined_symbols (set : PackedSet) : defined (symbols set) = symbolNames set := by
  have modes : (set.pool.sfx.mapIdx fun i _ => "SOUND_MODE__" ++ Text.decimal i)
      = (List.range set.pool.sfx.length).map ("SOUND_MODE__" ++ Text.decimal ·) :=
    List.ext_getElem (by simp) fun i _ _ => by simp
  simp only [symbols, defined_append, defined_enumeration, defined_mapIdx, modes, symbolNames]
  simp [defined, Line.statement, Statement.symbol?, Statement.constant?, banner, ending]

theorem atom_of_symbol {s : String} (h : Title.Symbol s) : Atom s := by
  have each : ∀ n < 128, Title.isSymbolChar (Char.ofNat n) → isAtomChar (Char.ofNat n) := by decide
  obtain ⟨first, rest, chars, -⟩ := h.start
  refine ⟨by simp [chars], fun c member => ?_⟩
  have own := h.chars c member
  have ascii := Title.toNat_lt_of_isSymbolChar own
  rw [← Char.ofNat_toNat c] at own ⊢
  exact each c.toNat ascii own

theorem atom_decimal (n : Nat) : Atom (Text.decimal n) :=
  atom_of_spells (Text.Base.spells_decimal n)

theorem readable_enumeration {stem : String} (atom : Atom stem) {names : List String}
    (h : Title.Issued names) : ∀ l ∈ enumeration stem names, l.Readable := by
  have directive {text : String} (plain : '\n' ∉ text.toList)
      (passed : statement? text = some .nothing) : (Line.directive text).Readable := ⟨plain, passed⟩
  rw [enumeration, List.forall_mem_append, List.forall_mem_cons, List.forall_mem_singleton]
  refine ⟨⟨directive (by decide) (by decide), fun l member => ?_⟩,
    directive (by decide) (by decide)⟩
  obtain ⟨i, bound, rfl⟩ := List.mem_mapIdx.mp member
  exact ⟨atom.append (atom_of_symbol (h.symbols _ (List.getElem_mem bound))), atom_decimal i⟩

theorem readable_symbols {set : PackedSet} (h : set.Named) : ∀ l ∈ symbols set, l.Readable := by
  have none : ∀ l ∈ ([] : List Line), l.Readable := fun _ member => absurd member List.not_mem_nil
  have comment {text : String} (plain : '\n' ∉ text.toList) : (Line.comment text).Readable := plain
  have blank : Line.blank.Readable := trivial
  have count {name : String} (atom : Atom name) (n : Nat) :
      (Line.constant name (Text.decimal n)).Readable := ⟨atom, atom_decimal n⟩
  have modes : ∀ l ∈ set.pool.sfx.mapIdx fun i e =>
      Line.constant ("SOUND_MODE__" ++ Text.decimal i) (Text.decimal e.sfx.mode.value),
      l.Readable := by
    intro l member
    obtain ⟨i, bound, rfl⟩ := List.mem_mapIdx.mp member
    exact count ((by decide : Atom "SOUND_MODE__").append (atom_decimal i)) _
  have songs := readable_enumeration (by decide : Atom "MUSIC_") h.songs
  have sfx := readable_enumeration (by decide : Atom "SOUND_") h.sfx
  simp only [symbols, banner, ending, List.forall_mem_append, List.forall_mem_cons]
  exact ⟨⟨⟨⟨⟨⟨⟨comment (by decide), blank, count (by decide) _, count (by decide) _, blank, none⟩,
    songs⟩, blank, none⟩, sfx⟩, blank, none⟩, modes⟩, blank, comment (by decide), none⟩

theorem definedSymbols?_symbols {set : PackedSet} (h : set.Named) :
    definedSymbols? (text (symbols set)) = some (symbolNames set) := by
  rw [definedSymbols?_text (readable_symbols h), defined_symbols]

theorem decimal_inj {m n : Nat} (h : Text.decimal m = Text.decimal n) : m = n := by
  have read := (Text.Base.spells_decimal m).read?
  rw [h, (Text.Base.spells_decimal n).read?] at read
  exact (Option.some.inj read).symm

theorem nodup_symbolNames_iff {set : PackedSet} (h : set.Named) :
    (symbolNames set).Nodup ↔ "COUNT" ∉ set.songs.map SongEntry.ident
      ∧ ∀ i < set.pool.sfx.length, "MODE__" ++ Text.decimal i ∉ set.sfxIdents := by
  have songs : ((set.songs.map SongEntry.ident).map ("MUSIC_" ++ ·)).Nodup :=
    h.songs.distinct.map fun a b same => by simpa using same
  have sfx : (set.sfxIdents.map ("SOUND_" ++ ·)).Nodup :=
    h.sfx.distinct.map fun a b same => by simpa using same
  have split (number : String) : "SOUND_MODE__" ++ number = "SOUND_" ++ ("MODE__" ++ number) := by
    rw [show "SOUND_MODE__" = "SOUND_" ++ "MODE__" from rfl, String.append_assoc]
  have modes : ((List.range set.pool.sfx.length).map
      fun i => "SOUND_" ++ ("MODE__" ++ Text.decimal i)).Nodup :=
    List.nodup_range.map fun i j same => decimal_inj (by simpa using same)
  have musicCount (ident : String) : "MUSIC_" ++ ident = "MUSIC_COUNT" ↔ ident = "COUNT" := by
    rw [show "MUSIC_COUNT" = "MUSIC_" ++ "COUNT" from rfl, String.append_right_inj]
  have counts : "MUSIC_COUNT" ≠ "SFX_COUNT" := by decide
  have music (ident : String) : "MUSIC_" ++ ident ≠ "SFX_COUNT" := by simp [← String.toList_inj]
  have sound (ident : String) :
      "SOUND_" ++ ident ≠ "MUSIC_COUNT" ∧ "SOUND_" ++ ident ≠ "SFX_COUNT" := by
    simp [← String.toList_inj]
  have apart (first second : String) : "MUSIC_" ++ first ≠ "SOUND_" ++ second := by
    simp [← String.toList_inj]
  rw [symbolNames]
  generalize set.songs.map SongEntry.ident = idents at songs ⊢
  simp only [List.cons_append, List.nil_append, List.nodup_cons, List.nodup_append, List.mem_cons,
    List.mem_append, List.mem_map, List.mem_range, split]
  constructor
  · rintro ⟨musicOnce, -, -, -, modesApart⟩
    refine ⟨fun member => musicOnce (.inr (.inl (.inl ⟨_, member, rfl⟩))), fun i bound member => ?_⟩
    exact modesApart _ (.inr ⟨_, member, rfl⟩) _ ⟨i, bound, rfl⟩ rfl
  · rintro ⟨noCount, noMode⟩
    refine ⟨?_, ?_, ⟨songs, sfx, ?_⟩, modes, ?_⟩
    · rintro (same | (⟨ident, member, same⟩ | ⟨_, _, same⟩) | ⟨_, _, same⟩)
      · exact counts same
      · exact noCount ((musicCount ident).mp same ▸ member)
      · exact (sound _).1 same
      · exact (sound _).1 same
    · rintro ((⟨_, _, same⟩ | ⟨_, _, same⟩) | ⟨_, _, same⟩)
      · exact music _ same
      · exact (sound _).2 same
      · exact (sound _).2 same
    · rintro _ ⟨ident, _, rfl⟩ _ ⟨other, _, rfl⟩
      exact apart ident other
    · rintro _ (⟨_, _, rfl⟩ | ⟨ident, member, rfl⟩) _ ⟨i, bound, rfl⟩ same
      · exact apart _ _ same
      · exact noMode i bound ((String.append_right_inj "SOUND_").mp same ▸ member)

end Listing

/-- The listing of symbols can be read, and defines no symbol twice unless the symbol of a song is
`COUNT` or that of a sound effect is `MODE__` and the number of one. -/
theorem Batch.symbols_distinct_iff (calls : List Call) :
    let set := (new.addAll calls).set
    ∃ names, Listing.definedSymbols? (Listing.text (Listing.symbols set)) = some names
      ∧ (names.Nodup ↔ "COUNT" ∉ set.songs.map SongEntry.ident
        ∧ ∀ i < set.pool.sfx.length, "MODE__" ++ Text.decimal i ∉ set.sfxIdents) :=
  have named := PackedSet.Named.new.addAll calls
  ⟨_, Listing.definedSymbols?_symbols named, Listing.nodup_symbolNames_iff named⟩

theorem Batch.count_and_mode_defined_twice :
    let names (call : Call) :=
      Listing.definedSymbols? (Listing.text (Listing.symbols (new.addAll [call]).set))
    names ⟨.music, "count.txt", "TITLE \"count\"\n"⟩
        = some ["MUSIC_COUNT", "SFX_COUNT", "MUSIC_COUNT", "SOUND_NONE", "SOUND_MODE__0"]
      ∧ names ⟨.sfx, "mode.txt", "TITLE \"mode: 0\"\n"⟩
        = some ["MUSIC_COUNT", "SFX_COUNT", "SOUND_NONE", "SOUND_MODE__0", "SOUND_MODE__0",
          "SOUND_MODE__1"] := by
  have read (call : Call) := Listing.definedSymbols?_symbols (PackedSet.Named.new.addAll [call])
  exact ⟨(read _).trans (by decide +kernel), (read _).trans (by decide +kernel)⟩

end TuneBank
