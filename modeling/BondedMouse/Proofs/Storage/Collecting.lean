import BondedMouse.Storage.Cache
import BondedMouse.Storage.SaveBudget
import Mathlib.Data.List.Forall2

/-! # Collections of a full region

A journal of the flash shows what a save asks of it.  A save that is to collect first
erases the region, and if that succeeds it stores every record of the cache, also the
clean ones; the request stands until the erasure succeeds.  So a save that finds the
region full never leaves a request behind, and the next one can be made.

The budget of failed saves is a count in a row, cut off at each multiple of the limit.
-/

namespace BondedMouse

/-! ## A journal of the flash -/

namespace Simulation

inductive FlashCall
  | fetch (key : UInt16) (result : Except FlashError (Option (List UInt8)))
  | store (key : UInt16) (bytes : List UInt8) (result : Except FlashError Unit)
  | erase (result : Except FlashError Unit)

/-- A region that lists the calls to it, the latest last. -/
structure JournaledFlash (φ : Type) where
  flash : φ
  calls : List FlashCall

instance {φ : Type} [Flash φ] : Flash (JournaledFlash φ) where
  fetch key journaled :=
    let (result, flash) := Flash.fetch key journaled.flash
    (result, ⟨flash, journaled.calls ++ [.fetch key result]⟩)
  store key bytes journaled :=
    let (result, flash) := Flash.store key bytes journaled.flash
    (result, ⟨flash, journaled.calls ++ [.store key bytes result]⟩)
  eraseAll journaled :=
    let (result, flash) := Flash.eraseAll journaled.flash
    (result, ⟨flash, journaled.calls ++ [.erase result]⟩)

/-- The call stores the record, or tries to. -/
def FlashCall.Stores (record : CachedRecord) (call : FlashCall) : Prop :=
  ∃ result, call = .store record.key record.bytes result

/-- The calls of a collection: the region is erased, and then each record is stored in its turn.  If
the region cannot be erased, that is all. -/
inductive Collects (records : List CachedRecord) : List FlashCall → Prop
  | refused (error : FlashError) : Collects records [.erase (.error error)]
  | rewritten {stores : List FlashCall} (each : List.Forall₂ FlashCall.Stores records stores) :
      Collects records (.erase (.ok ()) :: stores)

end Simulation

open Simulation

namespace RecordCache

section Calls

variable {φ : Type} [Flash φ]

theorem saveRecord_calls (record : CachedRecord) (flash : JournaledFlash φ) :
    ∃ call, FlashCall.Stores record call ∧
      (saveRecord record flash).2.2.calls = flash.calls ++ [call] := by
  refine ⟨.store record.key record.bytes (Flash.store record.key record.bytes flash.flash).1,
    ⟨_, rfl⟩, ?_⟩
  have noted : (Flash.store record.key record.bytes flash).2.calls = flash.calls ++
    [.store record.key record.bytes (Flash.store record.key record.bytes flash.flash).1] := rfl
  unfold saveRecord
  split
  · next stored => rwa [stored] at noted
  · next failed => rwa [failed] at noted

/-- Each dirty record is stored once, whatever became of those before it. -/
theorem saveRecords_calls (records : List CachedRecord) (result : Except StorageError Unit)
    (flash : JournaledFlash φ) :
    ∃ stores, List.Forall₂ FlashCall.Stores (records.filter (·.dirty)) stores ∧
      (saveRecords records result flash).2.2.calls = flash.calls ++ stores := by
  induction records generalizing result flash with
  | nil => exact ⟨[], .nil, by simp [saveRecords]⟩
  | cons record rest ih =>
    unfold saveRecords
    split
    · next dirty =>
      obtain ⟨call, stores, listed⟩ := saveRecord_calls record flash
      obtain ⟨others, each, behind⟩ :=
        ih ((saveRecord record flash).1.bind fun () => result) (saveRecord record flash).2.2
      refine ⟨call :: others, ?_, ?_⟩
      · rw [List.filter_cons_of_pos dirty]
        exact .cons stores each
      · rw [behind, listed, List.append_assoc]
        rfl
    · next clean =>
      obtain ⟨others, each, behind⟩ := ih result flash
      exact ⟨others, by rwa [List.filter_cons_of_neg clean], behind⟩

/-- A collection that was requested is what the next save begins with. -/
theorem save_collects {cache : RecordCache} (requested : cache.collectRequested = true)
    (flash : JournaledFlash φ) :
    ∃ calls, Collects cache.records calls ∧
      (cache.save flash).2.2.calls = flash.calls ++ calls := by
  have noted : (Flash.eraseAll flash).2.calls =
    flash.calls ++ [.erase (Flash.eraseAll flash).1] := rfl
  unfold save
  rw [if_pos requested]
  split
  · next error after failed =>
    rw [failed] at noted
    exact ⟨_, .refused error, noted⟩
  · next after erased =>
    rw [erased] at noted
    let marked := cache.records.map fun record => { record with dirty := true }
    obtain ⟨stores, each, behind⟩ := saveRecords_calls marked (.ok ()) after
    -- Marked as dirty, every record is among those to be stored.
    have all : marked.filter (·.dirty) = marked := by
      rw [List.filter_eq_self]
      simp [marked]
    rw [all, List.forall₂_map_left_iff] at each
    refine ⟨.erase (.ok ()) :: stores, .rewritten each, ?_⟩
    rw [behind, noted, List.append_assoc]
    rfl

/-- A save that reports a full region leaves no request behind. -/
theorem collectRequested_of_noSpace {cache : RecordCache} {flash : φ}
    (full : (cache.save flash).1 = .error .noSpace) :
    (cache.save flash).2.1.collectRequested = false := by
  unfold save at full ⊢
  split at full
  · next requested =>
    rw [if_pos requested]
    split at full
    · cases full
    · rfl
  · next keep =>
    rw [if_neg keep]
    exact Bool.eq_false_iff.2 keep

end Calls

theorem reclaim_of_unrequested {cache : RecordCache}
    (unrequested : cache.collectRequested = false) :
    cache.reclaim = (.ok (), { cache with collectRequested := true }) := by
  simp [reclaim, unrequested]

theorem needsSave_of_requested {cache : RecordCache} (requested : cache.collectRequested = true) :
    cache.needsSave = true := by
  simp [needsSave, requested]

end RecordCache

/-! ## Failures in a row -/

namespace SaveBudget

/-- How many saves failed in a row at the end. -/
def inARow (results : List (Except StorageError Unit)) : Nat :=
  results.foldl (fun row result =>
    match result with
    | .ok () => 0
    | .error _ => row + 1) 0

theorem inARow_concat_ok (results : List (Except StorageError Unit)) :
    inARow (results ++ [.ok ()]) = 0 := by
  simp [inARow]

theorem inARow_concat_error (results : List (Except StorageError Unit)) (error : StorageError) :
    inARow (results ++ [.error error]) = inARow results + 1 := by
  simp [inARow]

variable {budget : SaveBudget} {results : List (Except StorageError Unit)}

/-- The budget is spent by each failure whose place in its row is a multiple of the limit. -/
theorem spent_iff (counts : budget.failures = inARow results % storageTries) :
    storageTries ≤ budget.failures + 1 ↔ storageTries ∣ inARow results + 1 := by
  simp only [storageTries] at counts ⊢
  omega

theorem failures_count (counts : budget.failures = inARow results % storageTries)
    (result : Except StorageError Unit) :
    (budget.count result).2.failures = inARow (results ++ [result]) % storageTries := by
  cases result with
  | ok =>
    rw [inARow_concat_ok]
    rfl
  | error error =>
    rw [inARow_concat_error]
    by_cases spent : storageTries ≤ budget.failures + 1
    · have third := (spent_iff counts).1 spent
      simp [count, spent, Nat.mod_eq_zero_of_dvd third]
    · have more : (budget.count (.error error)).2.failures = budget.failures + 1 := by
        simp [count, spent]
      rw [more]
      simp only [storageTries] at counts spent ⊢
      omega

theorem count_eq_giveUp_iff (counts : budget.failures = inARow results % storageTries)
    {result : Except StorageError Unit} {error : StorageError} :
    (budget.count result).1 = .giveUp error ↔
      result = .error error ∧ storageTries ∣ inARow results + 1 := by
  rw [← spent_iff counts]
  cases result with
  | ok => simp [count]
  | error cause =>
    by_cases spent : storageTries ≤ budget.failures + 1
    · simp [count, spent]
    · cases cause <;> simp [count, spent]

theorem count_eq_collect_iff (counts : budget.failures = inARow results % storageTries)
    {result : Except StorageError Unit} :
    (budget.count result).1 = .collect ↔
      result = .error .noSpace ∧ ¬storageTries ∣ inARow results + 1 := by
  rw [← spent_iff counts]
  cases result with
  | ok => simp [count]
  | error cause =>
    by_cases spent : storageTries ≤ budget.failures + 1
    · simp [count, spent]
    · cases cause <;> simp [count, spent]

end SaveBudget

end BondedMouse
