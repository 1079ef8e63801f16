import TuneBank.Batch

/-! How many bytes each table of a run takes, and the statistics that are written about it. An
entry of a table costs its data and a pointer. -/

namespace TuneBank

namespace Cost

def pointer : Nat := 2

def frame : Nat := 4

def instrument : Nat := 4

def songNumbers : Nat := 2

def ofMacro (m : Macro) : Nat := pointer + m.packedSize

def ofOrder (s : PackedSong) : Nat := pointer + s.order.length * frame

def ofPattern (bytes : List UInt8) : Nat := pointer + bytes.length

/-- A pointer, the mode and the stream. -/
def ofSfx (s : Bytecode.SfxStream) : Nat := pointer + 1 + s.bytes.length

def total (costs : List Nat) : Nat := costs.foldr (· + ·) 0

@[simp] theorem total_nil : total [] = 0 := rfl

@[simp] theorem total_cons (cost : Nat) (costs : List Nat) :
    total (cost :: costs) = cost + total costs := rfl

@[simp] theorem total_append (first second : List Nat) :
    total (first ++ second) = total first + total second := by
  induction first with
  | nil => exact (Nat.zero_add _).symm
  | cons cost first ih => rw [List.cons_append, total_cons, total_cons, ih, Nat.add_assoc]

theorem total_map_add {α : Type} (f g : α → Nat) (as : List α) :
    total (as.map fun a => f a + g a) = total (as.map f) + total (as.map g) := by
  induction as with
  | nil => rfl
  | cons a as ih =>
    simp only [List.map_cons, total_cons, ih]
    omega

theorem total_map_const {α : Type} (cost : Nat) (as : List α) :
    total (as.map fun _ => cost) = as.length * cost := by
  induction as with
  | nil => exact (Nat.zero_mul _).symm
  | cons a as ih => rw [List.map_cons, total_cons, ih, List.length_cons, Nat.succ_mul, Nat.add_comm]

theorem total_flatMap {α : Type} (f : α → List Nat) (as : List α) :
    total (as.flatMap f) = total (as.map fun a => total (f a)) := by
  induction as with
  | nil => rfl
  | cons a as ih => rw [List.flatMap_cons, total_append, ih, List.map_cons, total_cons]

theorem length_flatMap {α β : Type} (f : α → List β) (as : List α) :
    (as.flatMap f).length = total (as.map fun a => (f a).length) := by
  induction as with
  | nil => rfl
  | cons a as ih => rw [List.flatMap_cons, List.length_append, ih, List.map_cons, total_cons]

end Cost

structure Sizes where
  macros : Nat
  instruments : Nat
  orders : Nat
  patterns : Nat
  sfx : Nat
  misc : Nat
  deriving DecidableEq

namespace Sizes

def of (set : PackedSet) : Sizes where
  macros := Cost.total (set.pool.macros.map fun e => Cost.ofMacro e.content)
  instruments := set.pool.instruments.length * Cost.instrument
  orders := Cost.total (set.songs.map fun e => Cost.ofOrder e.song)
  patterns := Cost.total (set.pool.patterns.map fun e => Cost.ofPattern e.content)
  sfx := Cost.total (set.pool.sfx.map fun e => Cost.ofSfx e.sfx)
  misc := set.songs.length * Cost.songNumbers

def total (s : Sizes) : Nat :=
  s.macros + s.instruments + s.orders + s.patterns + s.sfx + s.misc

end Sizes

namespace Statistics

/-- The macros that were first defined as one kind. Seeds are of no kind. -/
def macrosOf (p : Pool) (kind : MacroKind) : List Macro :=
  (p.macros.filter fun e => e.origin.kind? = some kind).map Entry.content

def macroKindSize (p : Pool) (kind : MacroKind) : Nat :=
  Cost.total ((macrosOf p kind).map Cost.ofMacro)

def songSize (p : Pool) (s : PackedSong) : Nat :=
  Cost.total (s.newPatterns.map fun i =>
      Cost.ofPattern ((p.patterns[i]?.map Entry.content).getD []))
    + Cost.ofOrder s + Cost.songNumbers

def countLines (set : PackedSet) : List String :=
  [ "Macro count: " ++ Text.decimal set.pool.macros.length,
    "Instrument count: " ++ Text.decimal set.pool.instruments.length,
    "Pattern count: " ++ Text.decimal set.pool.patterns.length ]

def bytesText (n : Nat) : String := Text.column 5 n ++ " bytes"

def sizeLines (s : Sizes) : List String :=
  [ "Macro size:      " ++ bytesText s.macros,
    "Instrument size: " ++ bytesText s.instruments,
    "Order size:      " ++ bytesText s.orders,
    "Pattern size:    " ++ bytesText s.patterns,
    "SFX size:        " ++ bytesText s.sfx,
    "Misc:            " ++ bytesText s.misc,
    "TOTAL:           " ++ bytesText s.total ]

def kindLine (p : Pool) (kind : MacroKind) : String :=
  "Macro type " ++ Text.decimal kind.index ++ ":    " ++ bytesText (macroKindSize p kind)
    ++ " in " ++ Text.column 3 (macrosOf p kind).length ++ " macros (" ++ kind.name ++ ")"

def songLine (p : Pool) (i : Nat) (e : SongEntry) : String :=
  "Song " ++ Text.column 2 i ++ ":         " ++ bytesText (songSize p e.song) ++ " in "
    ++ Text.column 3 e.song.newPatterns.length ++ " patterns (" ++ e.ident ++ ")"

def sfxLine (i : Nat) (e : SfxEntry × String) : String :=
  "SFX " ++ Text.column 2 i ++ ":          " ++ bytesText (Cost.ofSfx e.1.sfx) ++ " ("
    ++ e.2 ++ ")"

def lines (set : PackedSet) : List String :=
  countLines set ++ [""] ++ sizeLines (.of set) ++ [""]
  ++ MacroKind.all.map (kindLine set.pool) ++ [""]
  ++ set.songs.mapIdx (songLine set.pool) ++ [""]
  ++ (set.pool.sfx.zip set.sfxIdents).mapIdx sfxLine

def text (set : PackedSet) : String :=
  Text.unlines (lines set)
    ++ (if set.report.isEmpty then "" else "\n\nReported errors:\n" ++ set.report.text)

end Statistics

end TuneBank
