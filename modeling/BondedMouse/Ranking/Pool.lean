import BondedMouse.Ranking.Basic

/-! # The pool of rankings

Rankings live in a pool of two.  A slot is handed out empty and stays its holder's
until it is given back.
-/

namespace BondedMouse

/-- The number of rankings in a pool. -/
abbrev RankingPool.size : Nat := 2

structure RankingPool where
  rankings : Vector Ranking RankingPool.size
  used : Vector Bool RankingPool.size

namespace RankingPool

/-- A place of the pool. -/
structure Slot where
  index : Fin size
  deriving DecidableEq, Repr

/-- A pool of which nothing is handed out. -/
def empty : RankingPool := ⟨Vector.replicate size Ranking.empty, Vector.replicate size false⟩

/-- Hands out the first unused slot, with an empty ranking. -/
def alloc (pool : RankingPool) : Option (Slot × RankingPool) :=
  (pool.used.finIdxOf? false).map fun index =>
    (⟨index⟩, ⟨pool.rankings.set index Ranking.empty, pool.used.set index true⟩)

/-- Takes a slot back; `false` if it was not handed out. -/
def free (pool : RankingPool) (slot : Slot) : Bool × RankingPool :=
  (pool.used[slot.index], { pool with used := pool.used.set slot.index false })

def get (pool : RankingPool) (slot : Slot) : Ranking :=
  pool.rankings[slot.index]

def set (pool : RankingPool) (slot : Slot) (ranking : Ranking) : RankingPool :=
  { pool with rankings := pool.rankings.set slot.index ranking }

/-- A slot reads what was last set there. -/
theorem get_set (pool : RankingPool) (slot other : Slot) (ranking : Ranking) :
    (pool.set slot ranking).get other = if other = slot then ranking else pool.get other := by
  obtain ⟨index⟩ := slot
  obtain ⟨place⟩ := other
  simp only [get, set, Fin.getElem_fin, Vector.getElem_set, Slot.mk.injEq]
  by_cases same : place = index
  · simp [same]
  · have apart : index.val ≠ place.val := fun equal => same (Fin.ext equal.symm)
    simp [same, apart]

/-- Inserts a peer into the ranking of a slot. -/
def insert (pool : RankingPool) (slot : Slot) (peer : PeerId) : Ranking.Insertion × RankingPool :=
  let (insertion, ranking) := (pool.get slot).insert peer
  (insertion, pool.set slot ranking)

end RankingPool

end BondedMouse
