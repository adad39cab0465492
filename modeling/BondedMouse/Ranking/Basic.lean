import BondedMouse.Peer

/-! # The ranking of peers by recency

A ranking keeps up to five peers, the most recently used first.  It is a row of
slots; the occupied ones come first.

* `toList` is the view that the laws speak of: the peers up to the first free slot;
* `insert` moves a peer to the front, and the last of a full ranking falls off;
* `retain` drops the peers that a test refuses and closes the gaps.
-/

namespace BondedMouse

/-- The number of peers that a ranking can hold. -/
abbrev Ranking.capacity : Nat := 5

/-- The peers by recency, most recent first. -/
structure Ranking where
  slots : Vector (Option PeerId) Ranking.capacity
  deriving DecidableEq

namespace Ranking

def empty : Ranking := ⟨Vector.replicate capacity none⟩

instance : Inhabited Ranking := ⟨empty⟩

/-- The slots' peers up to the first free slot. -/
def leading : List (Option PeerId) → List PeerId
  | some peer :: rest => peer :: leading rest
  | _ => []

/-- The ranked peers, most recent first. -/
def toList (ranking : Ranking) : List PeerId :=
  leading ranking.slots.toList

def ofList (peers : List PeerId) : Ranking :=
  ⟨Vector.ofFn fun rank => peers[rank]?⟩

def count (ranking : Ranking) : Nat :=
  ranking.slots.toList.findIdx (· == none)

def isEmpty (ranking : Ranking) : Bool :=
  ranking.count == 0

/-- The rank of a peer; 0 is the most recent. -/
def rankOf? (ranking : Ranking) (peer : PeerId) : Option Nat :=
  ranking.slots.toList.idxOf? (some peer)

/-- The peer at a rank. -/
def peerAt? (ranking : Ranking) (rank : Nat) : Option PeerId :=
  (ranking.slots[rank]?).join

/-- What an insertion did. -/
inductive Insertion
  /-- The peer already was the most recent one. -/
  | unchanged
  /-- The peer came to the front. -/
  | promoted
  /-- The peer came to the front, and the last peer of the full ranking fell off. -/
  | evicted (peer : PeerId)
  deriving DecidableEq

def Insertion.changed : Insertion → Bool
  | .unchanged => false
  | .promoted | .evicted _ => true

/-- The slots down to `depth` move back by one and the peer takes the first. -/
def pushFront (ranking : Ranking) (peer : PeerId) (depth : Fin capacity) : Ranking :=
  ⟨Vector.ofFn fun rank =>
    if rank = 0 then some peer
    else if rank ≤ depth then ranking.slots[rank.val - 1]
    else ranking.slots[rank]⟩

/-- The slot that an insertion overwrites: the peer's own, else the last one. -/
def depthFor (ranking : Ranking) (peer : PeerId) : Fin capacity :=
  (ranking.slots.finIdxOf? (some peer)).getD 4

/-- Moves a peer to the front. -/
def insert (ranking : Ranking) (peer : PeerId) : Insertion × Ranking :=
  let depth := ranking.depthFor peer
  if ranking.slots[0] = some peer then
    (.unchanged, ranking)
  else
    match ranking.slots[depth] with
    | some old =>
      (if old = peer then .promoted else .evicted old, ranking.pushFront peer depth)
    | none => (.promoted, ranking.pushFront peer depth)

/-- Keeps the peers that pass a test with effects, which is asked once for each ranked peer in
order, and says how many were dropped. -/
def retainM {m : Type → Type} [Monad m] (ranking : Ranking) (keep : PeerId → m Bool) :
    m (Nat × Ranking) := do
  let kept ← ranking.toList.filterM keep
  return (ranking.count - kept.length, ofList kept)

/-- Keeps the peers that pass a test, and says how many were dropped. -/
def retain (ranking : Ranking) (keep : PeerId → Bool) : Nat × Ranking :=
  let kept := ranking.toList.filter keep
  (ranking.count - kept.length, ofList kept)

end Ranking

end BondedMouse
