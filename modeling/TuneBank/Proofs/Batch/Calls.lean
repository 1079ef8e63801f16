import TuneBank.Batch
import TuneBank.Proofs.Pool.Linked

/-! Runs as sequences of calls. Whatever is added, the tables and the songs of a run are only
appended to, so what a song was given when it was packed is still there at the end. -/

namespace TuneBank.Batch

structure Call where
  kind : SourceKind
  source : String
  text : String

def addAll (b : Batch) (calls : List Call) : Batch :=
  calls.foldl (fun b call => (b.add call.kind call.source call.text).1) b

theorem addAll_append (b : Batch) (first second : List Call) :
    b.addAll (first ++ second) = (b.addAll first).addAll second :=
  List.foldl_append

structure Extends (b later : Batch) : Prop where
  pool : b.pool.Grows later.pool
  songs : b.set.songs <+: later.set.songs

theorem Extends.refl (b : Batch) : b.Extends b := ⟨.refl _, List.prefix_refl _⟩

theorem Extends.trans {b c d : Batch} (first : b.Extends c) (second : c.Extends d) : b.Extends d :=
  ⟨first.pool.trans second.pool, first.songs.trans second.songs⟩

theorem extends_add (b : Batch) (call : Call) :
    b.Extends (b.add call.kind call.source call.text).1 := by
  cases call.kind with
  | music => exact ⟨Pool.grows_packSong b.pool _, List.prefix_append _ _⟩
  | sfx => exact ⟨Pool.grows_pushSfx b.pool _ _, List.prefix_refl _⟩

theorem extends_addAll (b : Batch) (calls : List Call) : b.Extends (b.addAll calls) := by
  induction calls generalizing b with
  | nil => exact .refl b
  | cons call calls ih => exact (extends_add b call).trans (ih _)

theorem grows_addAll_new (calls : List Call) : Pool.seeded.Grows (new.addAll calls).pool :=
  (extends_addAll new calls).pool

end TuneBank.Batch
