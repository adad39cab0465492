import BondedMouse.Ranking.Pool

/-! # Slots on loan

A lender keeps two pools of rankings and numbers the slots that it hands out.  A number
stands for its slot until the slot is given back, to whichever pool: giving back uses
up the number in any case.
-/

namespace BondedMouse

/-- A slot that is handed out. -/
structure Loan where
  number : Nat
  /-- The pool that handed it out. -/
  home : Fin 2
  slot : RankingPool.Slot
  deriving DecidableEq

structure Lender where
  pools : Vector RankingPool 2
  /-- The slots that are handed out, in the order of their numbers. -/
  loans : List Loan
  /-- The number of the next loan. -/
  next : Nat

namespace Lender

/-- Two pools of which nothing is handed out. -/
def new : Lender := ⟨Vector.replicate 2 RankingPool.empty, [], 0⟩

def loan? (lender : Lender) (number : Nat) : Option Loan :=
  lender.loans.find? (·.number == number)

/-- The ranking that a pool keeps at the place of a loan. -/
def ranking (lender : Lender) (pool : Fin 2) (loan : Loan) : Ranking :=
  lender.pools[pool].get loan.slot

/-- Hands out a slot of a pool. -/
def lend (lender : Lender) (pool : Fin 2) : Option (Loan × Lender) :=
  lender.pools[pool].alloc.map fun (slot, changed) =>
    let loan := ⟨lender.next, pool, slot⟩
    (loan, ⟨lender.pools.set pool changed, lender.loans ++ [loan], lender.next + 1⟩)

/-- Gives a slot back to a pool, and says whether the pool took it. -/
def giveBack (lender : Lender) (pool : Fin 2) (loan : Loan) : Bool × Lender :=
  let (taken, changed) := lender.pools[pool].free loan.slot
  (taken, { lender with
    pools := lender.pools.set pool changed
    loans := lender.loans.filter (·.number != loan.number) })

/-- Inserts a peer into the ranking that a pool keeps at the place of a loan. -/
def insert (lender : Lender) (pool : Fin 2) (loan : Loan) (peer : PeerId) :
    Ranking.Insertion × Lender :=
  let (insertion, changed) := lender.pools[pool].insert loan.slot peer
  (insertion, { lender with pools := lender.pools.set pool changed })

end Lender

end BondedMouse
