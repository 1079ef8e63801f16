import TuneBank.Export.Import
import TuneBank.Report
import TuneBank.Song
import TuneBank.Title

/-! A run: songs and sound effects that are imported and packed one after another against one
pool, with a symbol for each and a report of their problems. -/

namespace TuneBank

structure SongEntry where
  ident : String
  song : PackedSong
  deriving DecidableEq

structure PackedSet where
  pool : Pool
  songs : List SongEntry
  sfxIdents : List String
  report : Report
  deriving DecidableEq

inductive SourceKind where
  | music
  | sfx
  deriving DecidableEq

structure Batch where
  set : PackedSet
  deriving DecidableEq

namespace Batch

def loadHeading : String := "Load errors for"

def packHeading : String := "Packing errors for"

def titleHeading : String := "Title warnings for"

/-- Only the seeds, of which the silent sound effect has its symbol. -/
def new : Batch :=
  ⟨⟨.seeded, [], Pool.seeded.sfx.map (Title.sanitize ·.title), .empty⟩⟩

def pool (b : Batch) : Pool := b.set.pool

def report (b : Batch) : Report := b.set.report

/-- The report after one more source has gone through its three stages. -/
def reportSource (r : Report) (source : String) (load : List Export.ImportError)
    (pack : List PackError) (title : List TitleWarning) : Report :=
  ((r.add loadHeading source (load.map Export.ImportError.message)).add packHeading source
    (pack.map PackError.message)).add titleHeading source (title.map TitleWarning.message)

/-- Import and pack a song. The second part is its number. -/
def addSong (b : Batch) (source text : String) : Batch × Nat :=
  let loaded := Export.load text 1
  let (pool, packed) := b.pool.packSong loaded.value
  let index := b.set.songs.length
  let (ident, warnings) :=
    Title.assign (b.set.songs.map SongEntry.ident) loaded.value.title index
  (⟨{ b.set with
      pool := pool
      songs := b.set.songs ++ [⟨ident, packed.value⟩]
      report := reportSource b.report source loaded.errors packed.errors warnings }⟩, index)

def addSfx (b : Batch) (source text : String) : Batch × Nat :=
  let loaded := Export.load text 1
  let packed := Bytecode.encodeSfx loaded.value
  let (pool, index) := b.pool.pushSfx loaded.value.title packed.value
  let (ident, warnings) := Title.assign b.set.sfxIdents loaded.value.title index
  (⟨{ b.set with
      pool := pool
      sfxIdents := b.set.sfxIdents ++ [ident]
      report := reportSource b.report source loaded.errors packed.errors warnings }⟩, index)

def add (b : Batch) : SourceKind → String → String → Batch × Nat
  | .music => b.addSong
  | .sfx => b.addSfx

def noteUnreadable (b : Batch) (source problem : String) : Batch :=
  ⟨{ b.set with report := b.report.add loadHeading source [problem] }⟩

end Batch

end TuneBank
