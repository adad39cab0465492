import BondedMouse.Proofs.Firmware.Backing
import BondedMouse.Proofs.Firmware.Custody
import BondedMouse.Proofs.Storage.Collecting

/-! # Collections in the main loop

Nothing but a save or a drop of what is pending takes back a request for a collection,
and both belong to the loop's half with the saves.  So a request that is made when a
save finds the region full is still there when the loop comes to that half again.

The budget is counted there too, and nowhere else.
-/

namespace BondedMouse

open Firmware
open Simulation (Collects JournaledFlash)

/-! ## What the controller does to a request -/

theorem RecordCache.collectRequested_write (key : UInt16) (bytes : List UInt8)
    (cache : RecordCache) :
    (cache.write key bytes).2.collectRequested = cache.collectRequested := by
  simp only [write]
  split_ifs <;> rfl

theorem RecordCache.collectRequested_reclaim {cache : RecordCache}
    (requested : cache.collectRequested = true) : cache.reclaim.2.collectRequested = true := by
  simp [reclaim, requested]

/-- The device's cache waits for a collection. -/
def AwaitsCollection (device : Device Platform) : Prop :=
  device.env.2.collectRequested = true

namespace AwaitsCollection

open Controller

variable {device after : Device Platform}

theorem spares (awaits : AwaitsCollection device) (spares : Spares device after) :
    AwaitsCollection after := by
  rw [AwaitsCollection, spares.records.platform.1]
  exact awaits

theorem maintained : Maintained AwaitsCollection where
  spares := spares
  flushed := by
    intro device awaits
    have written : AwaitsCollection
        { device with env := (device.ranking.persist device.env).2 } :=
      (RecordCache.collectRequested_write _ _ _).trans awaits
    have flushes := saveRanking_flushes device
    generalize saveRanking device = result at flushes
    cases flushes with
    | clean saved => exact awaits
    | written | waits | givenUp => exact written
  restored := by
    intro device awaits
    rw [AwaitsCollection, Device.env_restored]
    exact awaits
  pruned awaits := awaits
  inserted _ awaits := awaits
  emptied awaits := awaits

/-- A report of a full store is answered as busy, and the request abides. -/
theorem event (awaits : AwaitsCollection device) (event : RadioEvent) :
    AwaitsCollection (final (onEvent event device)) := by
  by_cases full : event = .storageFull
  · subst full
    rw [onEvent, final_onStorageFull]
    exact RecordCache.collectRequested_reclaim awaits
  · exact maintained.event full awaits

end AwaitsCollection

namespace Firmware.Engine

open EngineM Controller

variable {φ : Type}

/-! ## Between two saves -/

/-- What stands until the next save: the budget, and a request for a collection. -/
structure Abides (budget : SaveBudget) (requested : Bool) (engine : Engine φ) : Prop where
  wired : engine.session.Wired
  budget : engine.budget = budget
  awaits : requested = true → AwaitsCollection engine.session.device

namespace Abides

variable {budget : SaveBudget} {requested : Bool} {engine : Engine φ}

theorem control (abides : engine.Abides budget requested) {operation : ControlM Platform Unit}
    (keeps : AwaitsCollection engine.session.device →
      AwaitsCollection (final (operation engine.session.device))) :
    (left (Engine.control operation engine)).Abides budget requested := by
  rw [left_control]
  refine ⟨wired_control abides.wired operation, abides.budget, fun asked => ?_⟩
  rw [Session.control_device]
  exact keeps (abides.awaits asked)

theorem setUnit (abides : engine.Abides budget requested) (unit : RadioUnit) :
    (engine.setUnit unit).Abides budget requested :=
  ⟨abides.wired, abides.budget, abides.awaits⟩

theorem lasting (budget : SaveBudget) (requested : Bool) :
    Lasting (Abides (φ := φ) budget requested) where
  event _ abides := (abides.setUnit _).control fun awaits => awaits.event _
  request := by
    intro engine presses request abides
    have taken : ({ engine with presses }).Abides budget requested :=
      ⟨abides.wired, abides.budget, abides.awaits⟩
    exact taken.control fun awaits => awaits.spares (onRequest_spares _ _)
  tick abides := abides.control fun awaits => AwaitsCollection.maintained.tick awaits
  timerStep abides := ⟨abides.wired.timerStep, abides.budget, fun asked =>
    (abides.awaits asked).spares (Session.timerStep_spares abides.wired)⟩

variable [Flash φ]

/-- Every stretch but the saves leaves budget and request alone. -/
theorem ran (abides : engine.Abides budget requested) {stretch : Stretch φ}
    (other : stretch ≠ .sync) : (engine.ran stretch).Abides budget requested := by
  cases stretch with
  | start => exact abides.control fun awaits => AwaitsCollection.maintained.start awaits
  | drive => exact (lasting budget requested).drive abides
  | sync => exact absurd rfl other
  | tick => exact ⟨abides.wired, abides.budget, abides.awaits⟩
  | advertiser =>
    cases moves : engine.advertiser.step? engine.unit with
    | none =>
      rw [Engine.ran, moves]
      exact abides
    | some moved =>
      obtain ⟨unit, advertiser⟩ := moved
      rw [ran_advertiser moves]
      exact ⟨abides.wired, abides.budget, abides.awaits⟩
  | bonded bond => exact abides.setUnit _
  | secured address mode => exact abides.setUnit _
  | outside board presses buttons flash => exact ⟨abides.wired, abides.budget, abides.awaits⟩

theorem ranThrough (abides : engine.Abides budget requested) {stretches : List (Stretch φ)}
    (others : .sync ∉ stretches) : (engine.ranThrough stretches).Abides budget requested := by
  induction stretches generalizing engine with
  | nil => exact abides
  | cons stretch stretches ih =>
    obtain ⟨other, behind⟩ := List.ne_and_not_mem_of_not_mem_cons others
    exact ih (abides.ran (Ne.symm other)) behind

end Abides

/-! ## Saves -/

section Saves

variable [Flash φ] {engine : Engine φ}

theorem wired_sync (wired : engine.session.Wired) : (left engine.sync).session.Wired := by
  have tried : engine.tried.session.Wired := wired
  rw [left_sync]
  split
  · split
    · exact tried
    · exact tried
    · rw [left_control]
      exact wired_control tried _
    · exact tried
  · exact wired

theorem budget_sync (engine : Engine φ) :
    (left engine.sync).budget = if engine.cache.needsSave then
      (engine.budget.count (engine.cache.save engine.flash).1).2 else engine.budget := by
  rw [left_sync]
  split
  · split
    · rfl
    · rfl
    · rw [left_control]
      rfl
    · rfl
  · rfl

theorem flash_sync (needs : engine.cache.needsSave = true) :
    (left engine.sync).flash = (engine.cache.save engine.flash).2.2 := by
  rw [left_sync, if_pos needs]
  split
  · rfl
  · rfl
  · rw [left_control]
    rfl
  · rfl

/-- The results of the saves that a stretch makes: one, if it is the loop's half with the saves and
there is something to save. -/
def saves (engine : Engine φ) : Stretch φ → List (Except StorageError Unit)
  | .sync => if engine.cache.needsSave then [(engine.cache.save engine.flash).1] else []
  | _ => []

def savesThrough (engine : Engine φ) : List (Stretch φ) → List (Except StorageError Unit)
  | [] => []
  | stretch :: stretches => engine.saves stretch ++ (engine.ran stretch).savesThrough stretches

theorem saves_of_ne {stretch : Stretch φ} (other : stretch ≠ .sync) :
    engine.saves stretch = [] := by
  cases stretch with
  | sync => exact absurd rfl other
  | start | drive | tick | advertiser | bonded | secured | outside => rfl

theorem saveOnce_eq_iff {verdict : SaveVerdict} :
    saveOnce engine = .ok verdict engine.tried ↔
      (engine.budget.count (engine.cache.save engine.flash).1).1 = verdict := by
  have tried : saveOnce engine = .ok
      (engine.budget.count (engine.cache.save engine.flash).1).1 engine.tried := rfl
  simp [tried]

/-! ## The count -/

/-- The budget counts the failures in a row among these saves. -/
structure Counts (results : List (Except StorageError Unit)) (engine : Engine φ) : Prop where
  wired : engine.session.Wired
  failures : engine.budget.failures = SaveBudget.inARow results % storageTries

namespace Counts

variable {results : List (Except StorageError Unit)}

theorem ran (counts : engine.Counts results) (stretch : Stretch φ) :
    (engine.ran stretch).Counts (results ++ engine.saves stretch) := by
  by_cases syncs : stretch = .sync
  · subst syncs
    refine ⟨wired_sync counts.wired, ?_⟩
    show (left engine.sync).budget.failures = _
    rw [budget_sync, saves]
    split
    · exact SaveBudget.failures_count counts.failures _
    · rw [List.append_nil]
      exact counts.failures
  · have stays : engine.Abides engine.budget false :=
      ⟨counts.wired, rfl, fun asked => by cases asked⟩
    have later := stays.ran syncs
    refine ⟨later.wired, ?_⟩
    rw [saves_of_ne syncs, List.append_nil, later.budget]
    exact counts.failures

theorem ranThrough (counts : engine.Counts results) (stretches : List (Stretch φ)) :
    (engine.ranThrough stretches).Counts (results ++ engine.savesThrough stretches) := by
  induction stretches generalizing engine results with
  | nil =>
    rw [savesThrough, List.append_nil]
    exact counts
  | cons stretch stretches ih =>
    rw [savesThrough, ← List.append_assoc]
    exact ih (counts.ran stretch)

theorem of_assembled {unit : RadioUnit} {flash : φ} (ready : assemble unit flash = .ok engine) :
    engine.Counts [] := by
  rw [assemble_eq] at ready
  cases ready
  exact ⟨wired_fresh unit flash, rfl⟩

end Counts

/-! ## The request -/

/-- A save that is answered with a collection has dropped the request of before, if there was
one. -/
theorem reclaim_tried (full : (engine.cache.save engine.flash).1 = .error .noSpace) :
    RecordStore.reclaim engine.tried.session.device.env =
      (.ok (), (engine.unit, { engine.tried.cache with collectRequested := true })) := by
  have unrequested : engine.tried.cache.collectRequested = false :=
    RecordCache.collectRequested_of_noSpace full
  have accepted := RecordCache.reclaim_of_unrequested unrequested
  show ((engine.tried.cache.reclaim).1, (engine.unit, (engine.tried.cache.reclaim).2)) = _
  rw [accepted]

theorem sync_requests (wired : engine.session.Wired) (needs : engine.cache.needsSave = true)
    (full : (engine.cache.save engine.flash).1 = .error .noSpace)
    (collect : (engine.budget.count (engine.cache.save engine.flash).1).1 = .collect) :
    (left engine.sync).Abides (left engine.sync).budget true := by
  refine ⟨wired_sync wired, rfl, fun _ => ?_⟩
  rw [left_sync, if_pos needs, collect]
  show AwaitsCollection (left (Engine.control (onEvent .storageFull) engine.tried)).session.device
  rw [left_control, AwaitsCollection, Session.control_device, onEvent, final_onStorageFull,
    reclaim_tried full]

end Saves

/-! ## The theorem -/

section Journaled

variable [Flash φ]

/-- What a save does whose device waits for a collection. -/
theorem sync_collects {engine : Engine (JournaledFlash φ)}
    (awaits : AwaitsCollection engine.session.device) :
    engine.cache.needsSave = true ∧ ∃ calls, Collects engine.cache.records calls ∧
      (engine.ran .sync).flash.calls = engine.flash.calls ++ calls := by
  have needs : engine.cache.needsSave = true := RecordCache.needsSave_of_requested awaits
  have requested : engine.cache.collectRequested = true := awaits
  obtain ⟨calls, collects, listed⟩ := RecordCache.save_collects requested engine.flash
  rw [← flash_sync needs] at listed
  exact ⟨needs, calls, collects, listed⟩

/-- However the tasks take turns from power-up on and whatever the flash answers, a failed save is
given up exactly if it is the third in its row, or the sixth, and so on.  A save that finds the
region full is otherwise answered with a collection.  Then the store takes the request, and whatever
comes before the next save, that one is made: it erases the region, and if this succeeds it stores
each record of the cache. -/
theorem full_region_is_collected_next {unit : RadioUnit} {flash : JournaledFlash φ}
    {first : Engine (JournaledFlash φ)} (ready : assemble unit flash = .ok first)
    (stretches : List (Stretch (JournaledFlash φ))) :
    let engine := first.ranThrough stretches
    let result := (engine.cache.save engine.flash).1
    let row := SaveBudget.inARow (first.savesThrough stretches)
    engine.budget.failures < storageTries ∧
      (∀ error, saveOnce engine = .ok (.giveUp error) engine.tried ↔
        result = .error error ∧ storageTries ∣ row + 1) ∧
      (saveOnce engine = .ok .collect engine.tried ↔
        result = .error .noSpace ∧ ¬storageTries ∣ row + 1) ∧
      (engine.cache.needsSave = true → saveOnce engine = .ok .collect engine.tried →
        (RecordStore.reclaim engine.tried.session.device.env).1 = .ok () ∧
          ∀ others, .sync ∉ others →
            let next := (engine.ran .sync).ranThrough others
            next.cache.needsSave = true ∧ ∃ calls, Collects next.cache.records calls ∧
              (next.ran .sync).flash.calls = next.flash.calls ++ calls) := by
  intro engine result row
  have counts : engine.Counts (first.savesThrough stretches) :=
    (Counts.of_assembled ready).ranThrough stretches
  have collects : saveOnce engine = .ok .collect engine.tried ↔
      result = .error .noSpace ∧ ¬storageTries ∣ row + 1 :=
    saveOnce_eq_iff.trans (SaveBudget.count_eq_collect_iff counts.failures)
  refine ⟨?_, fun error => ?_, collects, fun needs answered => ?_⟩
  · rw [counts.failures]
    exact Nat.mod_lt _ (by decide)
  · exact saveOnce_eq_iff.trans (SaveBudget.count_eq_giveUp_iff counts.failures)
  · obtain ⟨full, -⟩ := collects.1 answered
    refine ⟨by rw [reclaim_tried full], fun others without => ?_⟩
    have requested := sync_requests counts.wired needs full (saveOnce_eq_iff.1 answered)
    exact sync_collects ((requested.ranThrough without).awaits rfl)

end Journaled

section Bench

/-- The first save finds the region full, and before the next one the tasks take their turns. -/
theorem full_region_collected_behind_a_drive :
    let first : Engine (JournaledFlash Chip) := .fresh (.new .powerOff none) ⟨wornChip, []⟩
    let engine := first.ranThrough [.start, .drive]
    let next := (engine.ran .sync).ranThrough [.tick, .advertiser, .drive]
    assemble (.new .powerOff none) ⟨wornChip, []⟩ = .ok first ∧
      engine.cache.needsSave = true ∧ saveOnce engine = .ok .collect engine.tried ∧
      next.cache.records.length = 1 ∧
      ∃ calls, Collects next.cache.records calls ∧
        (next.ran .sync).flash.calls = next.flash.calls ++ calls := by
  intro first engine next
  have ready : assemble (.new .powerOff none) ⟨wornChip, []⟩ = .ok first := assemble_eq _ _
  have needs : engine.cache.needsSave = true := by decide +kernel
  have answered : saveOnce engine = .ok .collect engine.tried :=
    saveOnce_eq_iff.2 (by decide +kernel)
  obtain ⟨-, -, -, requests⟩ := full_region_is_collected_next ready [.start, .drive]
  obtain ⟨-, later⟩ := requests needs answered
  have collected := (later [.tick, .advertiser, .drive] (by simp)).2
  refine ⟨ready, needs, answered, by decide +kernel, ?_⟩
  simpa only [first, engine, next] using collected

end Bench

end Firmware.Engine

end BondedMouse
