import BondedMouse.Reconnect.Transition

/-! # The directed sequence

A pass of the sequence is a scan, which notes each detected peer at its rank, and
then one window for each of them in the order of the ranks.  After three passes
without a connection the sequence is given up.

* `note` takes down a peer;
* `closeScan` closes the gaps between the ranks and yields the first target;
* `turn` moves to the next target, to a new scan or to the end of the sequence.
-/

namespace BondedMouse

/-- The number of ranks at which a scan can note a peer. -/
abbrev Sequence.capacity : Nat := 8

structure Sequence where
  phase : Phase
  /-- The detected peers: by rank during a scan, one behind the other afterwards. -/
  detected : Vector (Option PeerId) Sequence.capacity
  count : Nat
  index : Nat
  /-- The passes that ended without a connection. -/
  passes : Nat
  deriving DecidableEq

namespace Sequence

/-- The number of fruitless passes after which the sequence is given up. -/
def maxPasses : Nat := 3

def fresh : Sequence := ⟨.scanning, Vector.replicate capacity none, 0, 0, 0⟩

/-- Opens a scan; the passes so far count on. -/
def restart (sequence : Sequence) : Sequence :=
  { fresh with passes := sequence.passes }

/-- Notes a peer at a rank; `false` if the rank is taken or out of range. -/
def note (sequence : Sequence) (rank : Nat) (peer : PeerId) : Bool × Sequence :=
  if h : rank < capacity then
    match sequence.detected[rank] with
    | some _ => (false, sequence)
    | none =>
      (true, { sequence with
        detected := sequence.detected.set rank (some peer)
        count := sequence.count + 1 })
  else
    (false, sequence)

def targets (sequence : Sequence) : List PeerId :=
  sequence.detected.toList.filterMap id

/-- Ends the scan.  The first target, if any peer was detected; otherwise the sequence keeps
scanning. -/
def closeScan (sequence : Sequence) : Option PeerId × Sequence :=
  let targets := sequence.targets
  let closed := { sequence with detected := Vector.ofFn fun place => targets[place]?, index := 0 }
  match targets with
  | [] => (none, closed)
  | first :: _ => (some first, { closed with phase := .connection })

/-- The peer that the current directed window is for. -/
def target? (sequence : Sequence) : Option PeerId :=
  match sequence.phase with
  | .connection => (sequence.detected[sequence.index]?).join
  | .scanning => none

/-- What follows a directed window that nobody took. -/
inductive Turn
  | next (peer : PeerId)
  /-- All targets had their window; scan again. -/
  | scanAgain
  | giveUp
  deriving DecidableEq

/-- Moves past a directed window that nobody took. -/
def turn (sequence : Sequence) : Turn × Sequence :=
  let moved := { sequence with index := sequence.index + 1 }
  let target := if moved.index < moved.count then (moved.detected[moved.index]?).join else none
  match target with
  | some peer => (.next peer, moved)
  | none =>
    let ended := { moved with passes := moved.passes + 1 }
    (if ended.passes ≥ maxPasses then .giveUp else .scanAgain, ended)

end Sequence

end BondedMouse
