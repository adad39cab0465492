import BondedMouse.Ranking.Loans
import Mathlib.Data.Fintype.Card
import Mathlib.Data.List.Nodup
import Mathlib.Logic.Relation

/-! # Slots on loan are never shared

As long as each slot is used with the pool that handed it out, a slot belongs to one loan
at a time: the marks of a pool say which of its slots are on loan, and a loan that is given
back is gone.  So what is done through one loan is seen through no other, and a slot that
comes back from a former holder is handed out empty.
-/

namespace BondedMouse

/-! ## What a pool does to its slots -/

namespace RankingPool

variable {pool after : RankingPool} {slot other : Slot}

/-- The slot is marked as handed out. -/
def isUsed (pool : RankingPool) (slot : Slot) : Bool :=
  pool.used.get slot.index

theorem used_set (used : Vector Bool size) (slot other : Slot) (mark : Bool) :
    (used.set slot.index mark slot.index.isLt).get other.index =
      if other = slot then mark else used.get other.index := by
  obtain ⟨index⟩ := slot
  obtain ⟨place⟩ := other
  show (used.set index mark)[place] = if _ then mark else used[place]
  simp only [Fin.getElem_fin, Vector.getElem_set, Slot.mk.injEq, Fin.ext_iff, eq_comm]

theorem isUsed_free (pool : RankingPool) (slot other : Slot) :
    (pool.free slot).2.isUsed other = if other = slot then false else pool.isUsed other :=
  used_set pool.used slot other false

theorem alloc_eq_some (allocated : pool.alloc = some (slot, after)) :
    pool.isUsed slot = false ∧
      (∀ other, after.isUsed other = if other = slot then true else pool.isUsed other) ∧
      ∀ other, after.get other = if other = slot then .empty else pool.get other := by
  simp only [alloc, Option.map_eq_some_iff, Prod.mk.injEq] at allocated
  obtain ⟨index, found, rfl, rfl⟩ := allocated
  simp only [Vector.finIdxOf?, Option.map_eq_some_iff, Array.finIdxOf?_eq_some_iff] at found
  obtain ⟨place, ⟨free, -⟩, rfl⟩ := found
  refine ⟨?_, fun other => used_set pool.used _ other true, ?_⟩
  · show pool.used[place] = false
    simpa using free
  · intro other
    exact pool.get_set _ other .empty

theorem alloc_eq_none_iff : pool.alloc = none ↔ ∀ slot, pool.isUsed slot = true := by
  simp only [alloc, Option.map_eq_none_iff, Vector.finIdxOf?, Array.finIdxOf?_eq_none_iff]
  constructor
  · intro full slot
    by_contra used
    have free : pool.used[slot.index] = false := Bool.not_eq_true _ ▸ used
    have inside : slot.index < pool.used.toArray.size := by
      rw [Vector.size_toArray]
      exact slot.index.isLt
    exact full (Array.mem_iff_getElem.2 ⟨slot.index, inside, by simpa using free⟩)
  · intro full member
    obtain ⟨place, inside, free⟩ := Array.mem_iff_getElem.1 member
    rw [Vector.size_toArray] at inside
    have used : pool.used[place] = true := full ⟨⟨place, inside⟩⟩
    rw [Vector.getElem_toArray, used] at free
    cases free

end RankingPool

/-! ## What a lender does to its loans -/

namespace Lender

/-- The slot of a pool is marked as handed out. -/
def isUsed (lender : Lender) (pool : Fin 2) (slot : RankingPool.Slot) : Bool :=
  (lender.pools.get pool).isUsed slot

/-- The ranking that the holder of a loan reads. -/
def held (lender : Lender) (loan : Loan) : Ranking :=
  lender.ranking loan.home loan

/-- The holder of a loan writes its ranking. -/
def put (lender : Lender) (loan : Loan) (ranking : Ranking) : Lender :=
  { lender with
    pools := lender.pools.set loan.home (lender.pools[loan.home].set loan.slot ranking) }

/-- Inserts some peers through one loan, one after the other. -/
def insertAll (lender : Lender) (loan : Loan) (peers : List PeerId) : Lender :=
  peers.foldl (fun lender peer => (lender.insert loan.home loan peer).2) lender

/-- What may be done with two pools if a slot goes to no other pool than its own. -/
inductive Uses (lender : Lender) : Lender → Prop
  | lend {pool : Fin 2} {loan : Loan} {after : Lender}
      (lent : lender.lend pool = some (loan, after)) : Uses lender after
  | giveBack {loan : Loan} (live : loan ∈ lender.loans) :
      Uses lender (lender.giveBack loan.home loan).2
  | change {loan : Loan} (live : loan ∈ lender.loans) (ranking : Ranking) :
      Uses lender (lender.put loan ranking)

/-- What comes of two new pools. -/
def Reached (lender : Lender) : Prop :=
  Relation.ReflTransGen Uses new lender

/-- What is left when a slot is asked for, whether or not there is one. -/
def lent (lender : Lender) (pool : Fin 2) : Lender :=
  ((lender.lend pool).map Prod.snd).getD lender

variable {lender after : Lender} {pool : Fin 2} {loan other : Loan}

theorem held_eq (lender : Lender) (loan : Loan) :
    lender.held loan = (lender.pools.get loan.home).get loan.slot := rfl

theorem insert_eq_put (lender : Lender) (loan : Loan) (peer : PeerId) :
    (lender.insert loan.home loan peer).2 =
      lender.put loan ((lender.held loan).insert peer).2 := rfl

theorem lend_eq_lent (first : (lender.lend pool).map Prod.fst = some loan) :
    lender.lend pool = some (loan, lender.lent pool) := by
  obtain ⟨⟨given, after⟩, found, rfl⟩ := Option.map_eq_some_iff.1 first
  simp [lent, found]

namespace Reached

theorem new : Reached .new := .refl

theorem lent (reached : Reached lender) (pool : Fin 2) : Reached (lender.lent pool) := by
  cases found : lender.lend pool with
  | none => rwa [Lender.lent, found]
  | some result =>
    rw [Lender.lent, found]
    exact reached.tail (.lend found)

theorem giveBack (reached : Reached lender) (live : loan ∈ lender.loans) :
    Reached (lender.giveBack loan.home loan).2 :=
  reached.tail (.giveBack live)

theorem insertAll (reached : Reached lender) (live : loan ∈ lender.loans) (peers : List PeerId) :
    Reached (lender.insertAll loan peers) := by
  induction peers generalizing lender with
  | nil => exact reached
  | cons peer peers ih => exact ih (reached.tail (.change live _)) live

end Reached

theorem pools_set (lender : Lender) (pool place : Fin 2) (changed : RankingPool) :
    (lender.pools.set pool changed pool.isLt).get place =
      if place = pool then changed else lender.pools.get place := by
  show (lender.pools.set pool changed)[place] = if _ then changed else lender.pools[place]
  simp only [Fin.getElem_fin, Vector.getElem_set, Fin.ext_iff, eq_comm]

/-- A write is read through every loan of the same slot, and through no other. -/
theorem held_put (lender : Lender) (loan other : Loan) (ranking : Ranking) :
    (lender.put loan ranking).held other =
      if other.home = loan.home ∧ other.slot = loan.slot then ranking else lender.held other := by
  rw [held_eq, put, pools_set, held_eq]
  by_cases home : other.home = loan.home
  · rw [if_pos home, RankingPool.get_set, home]
    simp only [true_and]
    rfl
  · rw [if_neg home, if_neg fun same => home same.1]

theorem isUsed_put (lender : Lender) (loan : Loan) (ranking : Ranking) (pool : Fin 2)
    (slot : RankingPool.Slot) :
    (lender.put loan ranking).isUsed pool slot = lender.isUsed pool slot := by
  rw [isUsed, put, pools_set]
  split
  · next home => rw [home]; rfl
  · rfl

theorem held_giveBack (lender : Lender) (pool : Fin 2) (loan other : Loan) :
    (lender.giveBack pool loan).2.held other = lender.held other := by
  rw [held_eq, giveBack, pools_set, held_eq]
  split
  · next home => rw [home]; rfl
  · rfl

theorem isUsed_giveBack (lender : Lender) (pool place : Fin 2) (loan : Loan)
    (slot : RankingPool.Slot) :
    (lender.giveBack pool loan).2.isUsed place slot =
      if place = pool ∧ slot = loan.slot then false else lender.isUsed place slot := by
  rw [isUsed, giveBack, pools_set, isUsed]
  by_cases home : place = pool
  · rw [if_pos home, RankingPool.isUsed_free, home]
    simp only [true_and]
    rfl
  · rw [if_neg home, if_neg fun same => home same.1]

section Lend

variable (lent : lender.lend pool = some (loan, after))

include lent

theorem lend_eq_some :
    loan.home = pool ∧ loan.number = lender.next ∧ after.next = lender.next + 1 ∧
      after.loans = lender.loans ++ [loan] ∧
      ∃ changed, (lender.pools.get pool).alloc = some (loan.slot, changed) ∧
        after.pools = lender.pools.set pool changed pool.isLt := by
  simp only [lend, Option.map_eq_some_iff, Prod.exists, Prod.mk.injEq] at lent
  obtain ⟨slot, changed, allocated, rfl, rfl⟩ := lent
  exact ⟨rfl, rfl, rfl, rfl, changed, allocated, rfl⟩

theorem not_isUsed_of_lend : lender.isUsed loan.home loan.slot = false := by
  obtain ⟨rfl, -, -, -, changed, allocated, -⟩ := lend_eq_some lent
  exact (RankingPool.alloc_eq_some allocated).1

theorem isUsed_lend (place : Fin 2) (slot : RankingPool.Slot) :
    after.isUsed place slot =
      if place = loan.home ∧ slot = loan.slot then true else lender.isUsed place slot := by
  obtain ⟨rfl, -, -, -, changed, allocated, pools⟩ := lend_eq_some lent
  obtain ⟨-, marks, -⟩ := RankingPool.alloc_eq_some allocated
  rw [isUsed, pools, pools_set, isUsed]
  by_cases home : place = loan.home
  · rw [if_pos home, marks, home]
    simp only [true_and]
  · rw [if_neg home, if_neg fun same => home same.1]

theorem held_lend (other : Loan) :
    after.held other =
      if other.home = loan.home ∧ other.slot = loan.slot then .empty else lender.held other := by
  obtain ⟨rfl, -, -, -, changed, allocated, pools⟩ := lend_eq_some lent
  obtain ⟨-, -, rankings⟩ := RankingPool.alloc_eq_some allocated
  rw [held_eq, pools, pools_set, held_eq]
  by_cases home : other.home = loan.home
  · rw [if_pos home, rankings, home]
    simp only [true_and]
  · rw [if_neg home, if_neg fun same => home same.1]

end Lend

/-! ## The marks and the loans -/

/-- The slots that are marked as used are those on loan, each once. -/
structure Kept (lender : Lender) : Prop where
  numbered : ∀ loan ∈ lender.loans, loan.number < lender.next
  distinct : (lender.loans.map Loan.number).Nodup
  marked : ∀ pool slot, lender.isUsed pool slot = true ↔
    ∃ loan ∈ lender.loans, loan.home = pool ∧ loan.slot = slot
  apart : (lender.loans.map fun loan => (loan.home, loan.slot)).Nodup

namespace Kept

theorem new : Kept .new where
  numbered := nofun
  distinct := .nil
  marked := by
    intro pool slot
    have unused : isUsed .new pool slot = false := by
      show (Lender.new.pools[pool]).used[slot.index] = false
      simp [Lender.new, RankingPool.empty]
    rw [unused]
    simp [Lender.new]
  apart := .nil

theorem lend (kept : Kept lender) (lent : lender.lend pool = some (loan, after)) :
    Kept after := by
  obtain ⟨-, number, next, loans, -⟩ := lend_eq_some lent
  -- A loan of the slot would have left it marked.
  have fresh : ¬ ∃ other ∈ lender.loans, other.home = loan.home ∧ other.slot = loan.slot := by
    rw [← kept.marked, not_isUsed_of_lend lent]
    exact Bool.false_ne_true
  refine ⟨?_, ?_, ?_, ?_⟩
  · intro other member
    rw [loans, List.mem_append, List.mem_singleton] at member
    obtain before | rfl := member
    · have := kept.numbered other before
      omega
    · omega
  · rw [loans, List.map_append, List.nodup_append]
    refine ⟨kept.distinct, List.nodup_singleton _, ?_⟩
    simp only [List.mem_map, List.map_singleton, List.mem_singleton]
    rintro _ ⟨other, member, rfl⟩ _ rfl
    have := kept.numbered other member
    omega
  · intro place slot
    have marks : after.isUsed place slot = true ↔
        lender.isUsed place slot = true ∨ loan.home = place ∧ loan.slot = slot := by
      rw [isUsed_lend lent]
      split
      · next same => simp [same]
      · next other =>
        simp only [eq_comm (a := loan.home), eq_comm (a := loan.slot), other, or_false]
    rw [marks, kept.marked, loans]
    simp only [List.mem_append, List.mem_singleton, or_and_right, exists_or, exists_eq_left]
  · rw [loans, List.map_append, List.nodup_append]
    refine ⟨kept.apart, List.nodup_singleton _, ?_⟩
    simp only [List.mem_map, List.map_singleton, List.mem_singleton]
    rintro _ ⟨other, member, rfl⟩ _ rfl same
    rw [Prod.mk.injEq] at same
    exact fresh ⟨other, member, same⟩

theorem put (kept : Kept lender) (loan : Loan) (ranking : Ranking) :
    Kept (lender.put loan ranking) where
  numbered := kept.numbered
  distinct := kept.distinct
  marked := by
    intro pool slot
    rw [isUsed_put]
    exact kept.marked pool slot
  apart := kept.apart

/-- No two loans have a number in common. -/
theorem eq_of_number (kept : Kept lender) (member : loan ∈ lender.loans)
    (others : other ∈ lender.loans) (same : other.number = loan.number) : other = loan :=
  List.inj_on_of_nodup_map kept.distinct others member same

/-- No two loans have a slot in common. -/
theorem eq_of_slot (kept : Kept lender) (member : loan ∈ lender.loans)
    (others : other ∈ lender.loans) (home : other.home = loan.home)
    (slot : other.slot = loan.slot) : other = loan :=
  List.inj_on_of_nodup_map kept.apart others member (Prod.ext home slot)

theorem mem_giveBack_iff (kept : Kept lender) (member : loan ∈ lender.loans) :
    other ∈ (lender.giveBack pool loan).2.loans ↔ other ∈ lender.loans ∧ other ≠ loan := by
  simp only [Lender.giveBack, List.mem_filter, bne_iff_ne]
  constructor
  · rintro ⟨others, number⟩
    exact ⟨others, fun same => number (congrArg Loan.number same)⟩
  · rintro ⟨others, different⟩
    exact ⟨others, fun same => different (kept.eq_of_number member others same)⟩

theorem giveBack (kept : Kept lender) (member : loan ∈ lender.loans) :
    Kept (lender.giveBack loan.home loan).2 := by
  have fewer : (lender.giveBack loan.home loan).2.loans.Sublist lender.loans :=
    List.filter_sublist
  refine ⟨?_, ?_, ?_, ?_⟩
  · intro other others
    exact kept.numbered other (fewer.subset others)
  · exact kept.distinct.sublist (fewer.map _)
  · intro pool slot
    rw [isUsed_giveBack, Bool.if_false_left, Bool.and_eq_true, kept.marked]
    simp only [Bool.not_eq_true', decide_eq_false_iff_not]
    constructor
    · rintro ⟨different, other, others, rfl, rfl⟩
      refine ⟨other, (kept.mem_giveBack_iff member).2 ⟨others, ?_⟩, rfl, rfl⟩
      rintro rfl
      exact different ⟨rfl, rfl⟩
    · rintro ⟨other, others, rfl, rfl⟩
      obtain ⟨before, different⟩ := (kept.mem_giveBack_iff member).1 others
      refine ⟨?_, other, before, rfl, rfl⟩
      rintro ⟨home, slot⟩
      exact different (kept.eq_of_slot member before home slot)
  · exact kept.apart.sublist (fewer.map _)

theorem uses (kept : Kept lender) (used : Uses lender after) : Kept after := by
  cases used with
  | lend lent => exact kept.lend lent
  | giveBack live => exact kept.giveBack live
  | change _ ranking => exact kept.put _ ranking

theorem of_reached (reached : Reached lender) : Kept lender := by
  induction reached with
  | refl => exact new
  | tail _ used kept => exact kept.uses used

end Kept

/-! ## The loans of one pool -/

/-- The loans of a pool. -/
def lentBy (lender : Lender) (pool : Fin 2) : List Loan :=
  lender.loans.filter (·.home = pool)

theorem mem_lentBy_iff : loan ∈ lender.lentBy pool ↔ loan ∈ lender.loans ∧ loan.home = pool := by
  simp [lentBy]

theorem Kept.nodup_lentBy (kept : Kept lender) (pool : Fin 2) :
    ((lender.lentBy pool).map (·.slot.index)).Nodup := by
  have once : (lender.lentBy pool).Nodup :=
    (kept.distinct.of_map _).sublist List.filter_sublist
  apply once.map_on
  intro loan member other others same
  obtain ⟨live, home⟩ := mem_lentBy_iff.1 member
  obtain ⟨alive, place⟩ := mem_lentBy_iff.1 others
  exact kept.eq_of_slot alive live (home.trans place.symm) (congrArg RankingPool.Slot.mk same)

theorem Kept.length_lentBy_le (kept : Kept lender) (pool : Fin 2) :
    (lender.lentBy pool).length ≤ RankingPool.size := by
  simpa using (kept.nodup_lentBy pool).length_le_card

/-- A pool has nothing to hand out when all of its slots are on loan. -/
theorem Kept.lend_eq_none_iff (kept : Kept lender) (pool : Fin 2) :
    lender.lend pool = none ↔ (lender.lentBy pool).length = RankingPool.size := by
  let places := (lender.lentBy pool).map (·.slot.index)
  have counted : places.toFinset.card = (lender.lentBy pool).length := by
    rw [List.toFinset_card_of_nodup (kept.nodup_lentBy pool), List.length_map]
  have all : lender.lend pool = none ↔ ∀ place, place ∈ places.toFinset := by
    rw [Lender.lend, Option.map_eq_none_iff, RankingPool.alloc_eq_none_iff]
    show (∀ slot, lender.isUsed pool slot = true) ↔ _
    simp only [kept.marked, places, List.mem_toFinset, List.mem_map, mem_lentBy_iff, and_assoc]
    constructor
    · intro used place
      obtain ⟨loan, member, home, slot⟩ := used ⟨place⟩
      exact ⟨loan, member, home, by rw [slot]⟩
    · intro used slot
      obtain ⟨loan, member, home, place⟩ := used slot.index
      exact ⟨loan, member, home, congrArg RankingPool.Slot.mk place⟩
  rw [all, ← Finset.eq_univ_iff_forall, ← Finset.card_eq_iff_eq_univ, counted, Fintype.card_fin]

/-- What is inserted through one loan is read through no other. -/
theorem held_insertAll (lender : Lender) (loan other : Loan) (peers : List PeerId) :
    (lender.insertAll loan peers).held other =
      if other.home = loan.home ∧ other.slot = loan.slot then
        peers.foldl (fun ranking peer => (ranking.insert peer).2) (lender.held loan)
      else lender.held other := by
  induction peers generalizing lender with
  | nil =>
    split
    · next same => rw [held, ranking, same.1, same.2]; rfl
    · rfl
  | cons peer peers ih =>
    show ((lender.insert loan.home loan peer).2.insertAll loan peers).held other = _
    rw [ih, insert_eq_put, held_put, held_put]
    split
    · simp
    · rfl

/-- As long as each slot is used with its own pool, the loans of a pool have different slots and are
as many as it has slots at most, and it refuses a loan if and only if they are as many.  A new loan
reads empty, whatever its slot held before; a loan that is given back is taken, and it alone is
gone.  Inserting through a loan does to its ranking what inserting does.  None of this changes what
is read through another loan. -/
theorem loans_never_share_a_slot (reached : Reached lender) (pool : Fin 2) :
    ((lender.lentBy pool).map (·.slot.index)).Nodup ∧
    (lender.lentBy pool).length ≤ RankingPool.size ∧
    (lender.lend pool = none ↔ (lender.lentBy pool).length = RankingPool.size) ∧
    (∀ loan after, lender.lend pool = some (loan, after) →
      after.loans = lender.loans ++ [loan] ∧ loan ∈ after.lentBy pool ∧
        after.held loan = .empty ∧ ∀ other ∈ lender.loans, after.held other = lender.held other) ∧
    (∀ loan ∈ lender.lentBy pool,
      (lender.giveBack pool loan).1 = true ∧
        (∀ other, other ∈ (lender.giveBack pool loan).2.loans ↔
          other ∈ lender.loans ∧ other ≠ loan) ∧
        ∀ other, (lender.giveBack pool loan).2.held other = lender.held other) ∧
    (∀ loan ∈ lender.lentBy pool, ∀ peers,
      (lender.insertAll loan peers).held loan =
          peers.foldl (fun ranking peer => (ranking.insert peer).2) (lender.held loan) ∧
        ∀ other ∈ lender.loans, other ≠ loan →
          (lender.insertAll loan peers).held other = lender.held other) := by
  have kept := Kept.of_reached reached
  refine ⟨kept.nodup_lentBy pool, kept.length_lentBy_le pool, kept.lend_eq_none_iff pool,
    ?_, ?_, ?_⟩
  · intro loan after lent
    obtain ⟨home, -, -, loans, -⟩ := lend_eq_some lent
    refine ⟨loans, ?_, ?_, ?_⟩
    · rw [mem_lentBy_iff, loans]
      simp [home]
    · rw [held_lend lent]
      simp
    · intro other member
      rw [held_lend lent, if_neg]
      intro same
      have used := (kept.marked loan.home loan.slot).2 ⟨other, member, same⟩
      rw [not_isUsed_of_lend lent] at used
      cases used
  · intro loan member
    obtain ⟨live, rfl⟩ := mem_lentBy_iff.1 member
    refine ⟨?_, fun other => kept.mem_giveBack_iff live,
      fun other => held_giveBack lender loan.home loan other⟩
    exact (kept.marked loan.home loan.slot).2 ⟨loan, live, rfl, rfl⟩
  · intro loan member peers
    obtain ⟨live, -⟩ := mem_lentBy_iff.1 member
    constructor
    · rw [held_insertAll]
      simp
    · intro other others different
      rw [held_insertAll, if_neg]
      rintro ⟨home, slot⟩
      exact different (kept.eq_of_slot live others home slot)

section Bench

def firstLoan : Loan := ⟨0, 0, ⟨0⟩⟩

def secondLoan : Loan := ⟨1, 0, ⟨1⟩⟩

/-- The second slot again. -/
def thirdLoan : Loan := ⟨2, 0, ⟨1⟩⟩

def rankedPeer : PeerId := ⟨7, by decide⟩

/-- Both slots of a pool were handed out and written, and the second was given back. -/
def writtenBench : Lender :=
  let first := ((new.lent 0).lent 0).insertAll firstLoan [rankedPeer]
  let both := first.insertAll secondLoan [rankedPeer]
  (both.giveBack secondLoan.home secondLoan).2

theorem reached_writtenBench : Reached writtenBench := by
  have both : Reached ((new.lent 0).lent 0) := (Reached.new.lent 0).lent 0
  have once := both.insertAll (show firstLoan ∈ _ by decide +kernel) [rankedPeer]
  have twice := once.insertAll (show secondLoan ∈ _ by decide +kernel) [rankedPeer]
  exact twice.giveBack (show secondLoan ∈ _ by decide +kernel)

/-- A slot is handed out again that still holds what its former holder wrote. -/
theorem loans_never_share_a_slot_that_came_back :
    Reached writtenBench ∧
      (writtenBench.pools[(0 : Fin 2)].get thirdLoan.slot).toList = [rankedPeer] ∧
      writtenBench.lend 0 = some (thirdLoan, writtenBench.lent 0) ∧
      (writtenBench.lent 0).held thirdLoan = .empty ∧
      (writtenBench.lent 0).held firstLoan = writtenBench.held firstLoan := by
  obtain ⟨-, -, -, lends, -, -⟩ := loans_never_share_a_slot reached_writtenBench 0
  have lent : writtenBench.lend 0 = some (thirdLoan, writtenBench.lent 0) :=
    lend_eq_lent (by decide +kernel)
  obtain ⟨-, -, empty, others⟩ := lends _ _ lent
  exact ⟨reached_writtenBench, by decide +kernel, lent, empty, others _ (by decide +kernel)⟩

end Bench

end Lender

end BondedMouse
