import BondedMouse.Proofs.Firmware.Backing
import BondedMouse.Proofs.Firmware.Custody

/-! # The ranking across a power cycle

A ranking that counts as saved is the one in the cache, and what is clean in the cache is
in the flash.  So a device that is switched off with nothing left to save finds its
whole ranking again.  The bonds are only in memory, though, and the start drops each
peer that the registry does not enumerate: of the ranking there stays what the registry
has kept, which is nothing on a radio unit that is new.
-/

namespace BondedMouse

open Firmware
open KeepsItems (item?)

/-! ## Cache and flash -/

theorem Ranking.decode?_of_length {record : List UInt8} (other : record.length ≠ Record.length) :
    decode? record = none :=
  dif_neg other

/-- The ranking that a cache has. -/
def RecordCache.ranking? (cache : RecordCache) : Option Ranking :=
  (cache.bytes? Ranking.Record.key).bind Ranking.decode?

/-- Of a record that is too long for the reader's buffer nothing is made, but neither is it one of
a ranking. -/
theorem answered?_read (platform : Platform) :
    Device.answered? (RecordStore.read Ranking.Record.key Ranking.Record.room platform).1 =
      platform.2.ranking? := by
  have reads : (RecordStore.read Ranking.Record.key Ranking.Record.room platform).1 =
      RecordCache.answer Ranking.Record.room (platform.2.bytes? Ranking.Record.key) :=
    RecordCache.read_answers _ _ _
  rw [reads, RecordCache.ranking?]
  cases platform.2.bytes? Ranking.Record.key with
  | none => rfl
  | some bytes =>
    rw [RecordCache.answer, Option.bind_some]
    split
    · next fits =>
      show Ranking.ofReading? ⟨bytes.length, bytes⟩ = _
      rw [Ranking.ofReading?, if_pos fits, List.take_length]
    · next long =>
      refine (Ranking.decode?_of_length fun same => long ?_).symm
      rw [same]
      decide

section Stores

variable {φ : Type} [Flash φ] [KeepsItems φ]

/-- The ranking that a region of flash holds. -/
def storedRanking? (flash : φ) : Option Ranking :=
  (item? Ranking.Record.key flash).bind Ranking.decode?

/-- The cache is there for the ranking alone, and the region has what is clean of it. -/
structure Deposited (cache : RecordCache) (flash : φ) : Prop where
  formed : cache.WellFormed
  alone : ∀ {key}, key ≠ Ranking.Record.key → cache.bytes? key = none
  agrees : (BackedCache.slot Ranking.Record.key false ⟨cache, flash⟩).Agrees
  crowded : cache.Crowded (RecordCache.items flash) 0 [Ranking.Record.key]

namespace Deposited

variable {cache : RecordCache} {flash : φ}

theorem loaded (readable : RecordCache.Readable [Ranking.Record.key] flash) :
    Deposited (RecordCache.empty.load [Ranking.Record.key] flash).1
      (RecordCache.empty.load [Ranking.Record.key] flash).2 := by
  have single : [Ranking.Record.key].Nodup := List.nodup_singleton _
  have drawn := RecordCache.load_drawn single .empty flash
  refine ⟨drawn.formed, fun {key} other => ?_, fun record found _ _ => (drawn.clean found).2,
    RecordCache.load_crowded single .empty readable⟩
  have absent : (RecordCache.empty.load [Ranking.Record.key] flash).1.find? key = none :=
    RecordCache.find?_loadKeys ⟨single, fun _ _ => rfl⟩ flash fun listed =>
      other (List.mem_singleton.1 listed)
  rw [RecordCache.bytes?, absent]
  rfl

/-- A move that writes no other key, and drops nothing that is dirty. -/
theorem moved (backed : BackedCache φ) (deposited : Deposited backed.cache backed.flash)
    (move : StoreMove φ)
    (own : ∀ {key}, key ≠ Ranking.Record.key → backed.accepted? key move = none)
    (kept : backed.lostBy Ranking.Record.key false move = false) :
    Deposited (backed.moved move).cache (backed.moved move).flash where
  formed := BackedCache.wellFormed_moved deposited.formed move
  alone other := by
    rw [BackedCache.bytes?_moved deposited.formed.distinct, own other, deposited.alone other]
    rfl
  agrees := by
    have fares := BackedCache.moved_fares deposited.formed.distinct Ranking.Record.key false move
    rw [kept] at fares
    exact fares.agrees deposited.agrees
  crowded := BackedCache.crowded_after deposited.formed [move] deposited.crowded

/-- A write of a ranking finds room. -/
theorem write_ok (deposited : Deposited cache flash) (ranking : Ranking) :
    (RecordCache.write Ranking.Record.key ranking.encode cache).1 = .ok () := by
  have fits : ¬ RecordCache.recordCapacity < ranking.encode.length := by
    rw [Ranking.length_encode]
    decide
  unfold RecordCache.write
  rw [if_neg fits]
  split
  · rfl
  · next absent =>
    have bare : cache.records = [] := by
      refine List.eq_nil_iff_forall_not_mem.2 fun record held => ?_
      have found := RecordCache.find?_of_mem deposited.formed.distinct held
      by_cases own : record.key = Ranking.Record.key
      · rw [own] at found
        exact absent (Option.isSome_iff_exists.2 ⟨record, found⟩)
      · have missing := deposited.alone own
        rw [RecordCache.bytes?, found] at missing
        cases missing
    rw [if_pos (by rw [bare]; decide)]

theorem written (deposited : Deposited cache flash) (ranking : Ranking) :
    Deposited (RecordCache.write Ranking.Record.key ranking.encode cache).2 flash :=
  moved ⟨cache, flash⟩ deposited (.write Ranking.Record.key ranking.encode)
    (fun other => if_neg fun written => other written.1.symm) rfl

theorem changed (deposited : Deposited cache flash) {change : φ → φ}
    (keeps : ∀ key flash, item? key (change flash) = item? key flash) :
    Deposited cache (change flash) :=
  moved ⟨cache, flash⟩ deposited (.outside change keeps) (fun _ => rfl) rfl

theorem reclaimed (deposited : Deposited cache flash) : Deposited cache.reclaim.2 flash :=
  moved ⟨cache, flash⟩ deposited .reclaim (fun _ => rfl) rfl

theorem saved (deposited : Deposited cache flash) :
    Deposited (cache.save flash).2.1 (cache.save flash).2.2 :=
  moved ⟨cache, flash⟩ deposited .save (fun _ => rfl) rfl

/-- When there is nothing to save, flash and cache have the same ranking. -/
theorem storedRanking?_eq (deposited : Deposited cache flash) (clean : cache.needsSave = false) :
    storedRanking? flash = cache.ranking? := by
  unfold storedRanking? RecordCache.ranking? RecordCache.bytes?
  cases found : cache.find? Ranking.Record.key with
  | some record =>
    have spotless : record.dirty = false := by
      have clean := (Bool.or_eq_false_iff.1 clean).2
      simpa using List.any_eq_false.1 clean _ (RecordCache.find?_eq_some found).1
    have item : item? Ranking.Record.key flash = some record.bytes :=
      deposited.agrees record found spotless rfl
    rw [item]
    rfl
  | none =>
    -- There was room for it, so no item that fits is left out, and others are no rankings.
    cases item : item? Ranking.Record.key flash with
    | none => rfl
    | some bytes =>
      refine Ranking.decode?_of_length fun same => ?_
      have full := deposited.crowded.1 found ⟨bytes, item, by rw [same]; decide⟩
      exact absurd full (by decide)

end Deposited

/-! ## The controller -/

/-- The ranking is the one in the cache, unless it is still to be saved. -/
structure Banked (flash : φ) (device : Device Platform) : Prop where
  formed : device.ranking.WellFormed
  recorded : device.unsaved = false → device.env.2.ranking?.getD .empty = device.ranking
  deposited : Deposited device.env.2 flash

namespace Banked

open Controller

variable {flash : φ} {device after : Device Platform}

theorem of_unsaved (formed : device.ranking.WellFormed) (unsaved : device.unsaved = true)
    (deposited : Deposited device.env.2 flash) : Banked flash device :=
  ⟨formed, fun saved => by simp [unsaved] at saved, deposited⟩

theorem spares (banked : Banked flash device) (spares : Spares device after) :
    Banked flash after := by
  have same := spares.records.platform.1
  refine ⟨?_, fun saved => ?_, ?_⟩
  · rw [spares.ranking]
    exact banked.formed
  · rw [same, spares.ranking]
    exact banked.recorded (spares.unsaved.symm.trans saved)
  · rw [same]
    exact banked.deposited

/-- Where the cache has no ranking, the present one stays. -/
theorem of_restored (formed : device.ranking.WellFormed) (deposited : Deposited device.env.2 flash)
    (bare : device.unsaved = false → device.env.2.ranking? = none → device.ranking = .empty) :
    Banked flash device.restored := by
  have env : device.restored.env = device.env := device.env_restored
  have ranking := device.ranking_restored
  rw [answered?_read] at ranking
  refine ⟨Ranking.wellFormed_closed.restore formed device.env, fun saved => ?_, env ▸ deposited⟩
  rw [env, ranking]
  cases found : device.env.2.ranking? with
  | some stored => rfl
  | none => exact (bare saved found).symm

theorem flushed (banked : Banked flash device) : Banked flash (final (saveRanking device)) := by
  have granted : (device.ranking.persist device.env).1 = .ok () :=
    banked.deposited.write_ok device.ranking
  have flushes := saveRanking_flushes device
  generalize saveRanking device = result at flushes
  cases flushes with
  | clean saved => exact banked
  | waits unsaved refused | givenUp unsaved refused => cases granted.symm.trans refused
  | written unsaved done =>
    refine ⟨banked.formed, fun _ => ?_, banked.deposited.written device.ranking⟩
    have bytes : (device.ranking.persist device.env).2.2.bytes? Ranking.Record.key =
        some device.ranking.encode := (RecordCache.bytes?_write granted).trans (if_pos rfl)
    have ranking : (device.ranking.persist device.env).2.2.ranking? = some device.ranking := by
      rw [RecordCache.ranking?, bytes]
      exact Ranking.decode?_eq_some_iff.2 ⟨banked.formed, rfl⟩
    exact congrArg (Option.getD · .empty) ranking

theorem maintained (flash : φ) : Maintained (Banked flash) where
  spares := spares
  flushed := flushed
  restored := by
    intro device banked
    refine .of_restored banked.formed banked.deposited fun saved absent => ?_
    rw [← banked.recorded saved, absent]
    rfl
  pruned := by
    intro device banked
    obtain same | unsaved := device.pruned_eq_or banked.formed
    · rwa [same]
    · exact .of_unsaved (Ranking.wellFormed_closed.retain _ banked.formed) unsaved banked.deposited
  inserted := by
    intro device peer banked
    exact .of_unsaved (Ranking.wellFormed_closed.insert peer banked.formed) rfl banked.deposited
  emptied := by
    intro device banked
    exact .of_unsaved Ranking.wellFormed_closed.empty rfl banked.deposited

theorem event (banked : Banked flash device) (event : RadioEvent) :
    Banked flash (final (onEvent event device)) := by
  by_cases full : event = .storageFull
  · subst full
    show Banked flash (final (onStorageFull device))
    rw [final_onStorageFull]
    have found : (RecordStore.reclaim device.env).2.2.ranking? = device.env.2.ranking? := by
      show RecordCache.ranking? device.env.2.reclaim.2 = _
      unfold RecordCache.reclaim
      split <;> rfl
    exact ⟨banked.formed, fun saved => found ▸ banked.recorded saved, banked.deposited.reclaimed⟩
  · exact (maintained flash).event full banked

end Banked

end Stores

/-! ## The main loop -/

namespace Firmware.Engine

open EngineM Controller

variable {φ : Type} [Flash φ] [KeepsItems φ] {engine : Engine φ}

/-- An engine whose ranking is in its cache and flash, but for what is still to be saved. -/
structure Banks (engine : Engine φ) : Prop where
  wired : engine.session.Wired
  banked : Banked engine.flash engine.session.device

namespace Banks

theorem of_control (wired : engine.session.Wired) {operation : ControlM Platform Unit}
    (banked : Banked engine.flash (final (operation engine.session.device))) :
    (left (Engine.control operation engine)).Banks := by
  rw [← Session.control_device] at banked
  rw [left_control]
  exact ⟨wired_control wired operation, banked⟩

theorem setUnit (banks : engine.Banks) (unit : RadioUnit) : (engine.setUnit unit).Banks :=
  ⟨banks.wired, { banks.banked with }⟩

theorem timerStep (banks : engine.Banks) :
    ({ engine with session := engine.session.timerStep }).Banks :=
  ⟨banks.wired.timerStep, banks.banked.spares (Session.timerStep_spares banks.wired)⟩

theorem lasting : Lasting (Banks : Engine φ → Prop) where
  event := by
    intro engine event events waits banks
    have taken := banks.setUnit { engine.unit with events }
    exact .of_control taken.wired (taken.banked.event event)
  request := by
    intro engine presses request banks
    have taken : ({ engine with presses }).Banks := ⟨banks.wired, banks.banked⟩
    exact .of_control taken.wired (taken.banked.spares (onRequest_spares _ _))
  tick banks := of_control banks.wired ((Banked.maintained _).tick banks.banked)
  timerStep := timerStep

/-- A save that is not given up. -/
theorem sync (banks : engine.Banks) (kept : engine.givesUp = false) :
    (left engine.sync).Banks := by
  unfold givesUp at kept
  rw [left_sync]
  split
  · next needs =>
    rw [needs, Bool.true_and] at kept
    let backed : BackedCache φ := ⟨engine.cache, engine.flash⟩
    have distinct : (backed.cache.records.map CachedRecord.key).Nodup :=
      banks.banked.deposited.formed.distinct
    have bytes : engine.tried.cache.bytes? Ranking.Record.key =
        engine.cache.bytes? Ranking.Record.key := BackedCache.bytes?_moved distinct _ .save
    have tried : engine.tried.Banks := by
      refine ⟨banks.wired, banks.banked.formed, fun saved => ?_, banks.banked.deposited.saved⟩
      show (engine.tried.cache.ranking?).getD _ = _
      rw [RecordCache.ranking?, bytes]
      exact banks.banked.recorded saved
    generalize (engine.budget.count (engine.cache.save engine.flash).1).1 = verdict at kept
    cases verdict with
    | done | retry => exact tried
    | collect => exact of_control tried.wired (tried.banked.event .storageFull)
    | giveUp error => cases kept
  · exact banks

end Banks

/-! ## Runs -/

/-- The part is a save that is given up, so that a fault of storage is reported.  The controller has
none to report, for its writes find room. -/
def reports (engine : Engine φ) : Part φ → Bool
  | .sync => engine.givesUp
  | .start | .drive | .tick | .polls | .radio _ _ | .flash _ _ => false

/-- A fault of storage was reported on the way. -/
def reported : Engine φ → List (Part φ) → Bool
  | _, [] => false
  | engine, part :: rest => engine.reports part || reported (engine.did part) rest

/-- The step: all parts but the saves that are given up. -/
theorem Banks.did (banks : engine.Banks) (part : Part φ) (silent : engine.reports part = false) :
    (engine.did part).Banks := by
  cases part with
  | start => exact .of_control banks.wired ((Banked.maintained _).start banks.banked)
  | drive => exact Banks.lasting.drive banks
  | sync => exact banks.sync silent
  | tick => exact ⟨banks.wired, banks.banked.spares { Spares.refl engine.session.device with }⟩
  | polls =>
    obtain ⟨board, presses, buttons, pressed⟩ := engine.pollButtons_eq
    have polled : engine.pollButtons.Banks := by
      have changed := banks.setUnit { engine.unit with board }
      rw [pressed]
      exact ⟨changed.wired, changed.banked⟩
    have advertised := polled.setUnit
      (engine.pollButtons.advertiser.poll engine.pollButtons.unit).1
    exact ⟨advertised.wired, advertised.banked⟩
  | radio change posts => exact banks.setUnit _
  | flash change keeps =>
    exact ⟨banks.wired, { banks.banked with deposited := banks.banked.deposited.changed keeps }⟩

theorem Banks.after (banks : engine.Banks) (parts : List (Part φ))
    (silent : engine.reported parts = false) : (engine.after parts).Banks := by
  induction parts generalizing engine with
  | nil => exact banks
  | cons part parts ih =>
    obtain ⟨now, later⟩ := Bool.or_eq_false_iff.1 silent
    exact ih (banks.did part now) later

/-- From the first start on, if the flash could be read before it. -/
theorem Banks.started (unit : RadioUnit) {flash : φ}
    (readable : RecordCache.Readable [Ranking.Record.key] flash) :
    ((fresh unit flash).did .start).Banks := by
  refine .of_control (wired_fresh unit flash) ((Banked.maintained _).started ?_)
  exact .of_restored Ranking.wellFormed_closed.empty (.loaded readable) fun _ _ => rfl

/-- What a fresh engine restores is the ranking in the flash. -/
theorem restored_fresh (unit : RadioUnit) {flash : φ}
    (readable : RecordCache.Readable [Ranking.Record.key] flash) :
    (fresh unit flash).session.device.restored.ranking = (storedRanking? flash).getD .empty := by
  have single : [Ranking.Record.key].Nodup := List.nodup_singleton _
  have stored := (Deposited.loaded readable).storedRanking?_eq
    (RecordCache.load_needsSave single flash)
  have items : storedRanking? (RecordCache.empty.load [Ranking.Record.key] flash).2 =
      storedRanking? flash :=
    congrArg (Option.bind · Ranking.decode?)
      (congrFun (RecordCache.items_loadKeys _ _ flash) Ranking.Record.key)
  rw [Device.ranking_restored, answered?_read, ← items, stored]
  rfl

/-- The start drops those who have no bond on the radio unit. -/
theorem started_fresh (unit : RadioUnit) (flash : φ) :
    ((fresh unit flash).did .start).session.device.ranking =
      ((fresh unit flash).session.device.restored.ranking.retain (unit.bonds.Has ·)).2 := by
  have enumerates (peer : PeerId) : Registry.enumerates
      (fresh unit flash).session.device.restored.env peer = decide (unit.bonds.Has peer) := by
    have env : (fresh unit flash).session.device.restored.env =
        (fresh unit flash).session.device.env := Device.env_restored _
    rw [Bool.eq_iff_iff, decide_eq_true_iff, Registry.enumerates_iff_has, env]
    rfl
  show (left (Engine.control Controller.start _)).session.device.ranking = _
  rw [left_control]
  show (Session.control _ _).2.device.ranking = _
  rw [Session.control_device, Controller.ranking_start, ← funext enumerates]
  rfl

/-- Let a device that has reported no fault of storage be switched off when its ranking is saved
and its cache has nothing to save, and be switched on with its flash as it was.  Then the ranking
that it restores is the old one, and of that the start keeps the peers that have a bond on the new
radio unit.  So all of it survives if these bonds have survived, and none of it without bonds. -/
theorem power_cycle_keeps_bonded_peers {unit again : RadioUnit} {flash kept : φ}
    {first next : Engine φ} (ready : assemble unit flash = .ok first)
    (readable : RecordCache.Readable [Ranking.Record.key] flash) (parts : List (Part φ))
    (silent : first.reported (.start :: parts) = false)
    (saved : (first.after (.start :: parts)).session.device.unsaved = false)
    (clean : (first.after (.start :: parts)).cache.needsSave = false)
    (same : item? Ranking.Record.key kept =
      item? Ranking.Record.key (first.after (.start :: parts)).flash)
    (reread : RecordCache.Readable [Ranking.Record.key] kept)
    (powered : assemble again kept = .ok next) :
    let ranking := (first.after (.start :: parts)).session.device.ranking
    let restarted := (next.did .start).session.device.ranking
    next.session.device.restored.ranking = ranking ∧
      restarted.toList = ranking.toList.filter (again.bonds.Has ·) ∧
      (restarted = ranking ↔ ∀ peer ∈ ranking.toList, again.bonds.Has peer) ∧
      (again.bonds = .empty → restarted.toList = []) := by
  intro ranking restarted
  rw [assemble_eq] at ready powered
  cases ready
  cases powered
  have banks : ((fresh unit flash).after (.start :: parts)).Banks :=
    (Banks.started unit readable).after parts (Bool.or_eq_false_iff.1 silent).2
  have restored : (fresh again kept).session.device.restored.ranking = ranking := by
    have stored : storedRanking? kept = ((fresh unit flash).after (.start :: parts)).cache.ranking? :=
      (congrArg (Option.bind · Ranking.decode?) same).trans
        (banks.banked.deposited.storedRanking?_eq clean)
    rw [restored_fresh again reread, stored]
    exact banks.banked.recorded saved
  have started : restarted = (ranking.retain (again.bonds.Has ·)).2 := by
    rw [← restored]
    exact started_fresh again kept
  have listed : restarted.toList = ranking.toList.filter (again.bonds.Has ·) := by
    rw [started, Ranking.toList_retain]
  refine ⟨restored, listed, ⟨fun survived peer ranked => ?_, fun bonded => ?_⟩, fun bare => ?_⟩
  · rw [survived] at listed
    simpa using List.filter_eq_self.1 listed.symm peer ranked
  · rw [started, banks.banked.formed.retain_of_all (by simpa using bonded)]
  · rw [listed, bare]
    exact List.filter_eq_nil_iff.2 fun peer _ => by simp [BondTable.not_has_empty]

section Bench

/-- A central takes the pairing window. -/
def connecting : Part Chip :=
  .radio (fun unit => { unit with
    board := { unit.board with outcomes := [.connected centralAddress (some 7)] } }) fun _ => id

theorem posts_onBonded (bond : Bond) (unit : RadioUnit)
    (full : .storageFull ∈ (unit.onBonded bond).events.items) :
    .storageFull ∈ unit.events.items := by
  unfold RadioUnit.onBonded at full
  split at full
  · exact (RadioUnit.mem_events_postEvent full).elim id nofun
  · exact full

def bonding : Part Chip :=
  .radio (·.onBonded centralBond) (posts_onBonded centralBond)

/-- What happens behind the start until the ranking with the central is in the flash. -/
def pairingParts : List (Part Chip) :=
  [.drive, .sync, .polls, connecting, .polls, .drive, bonding, .drive, .sync]

/-- A device on a blank chip, to which a central has bonded. -/
def paired : Engine Chip :=
  (fresh (.new .powerOff none) (.new .empty)).after (.start :: pairingParts)

/-- The device on the chip of the one before, with a radio unit that has these bonds. -/
def repowered (bonds : BondTable) : Engine Chip :=
  fresh { RadioUnit.new .powerOff none with bonds } paired.flash

theorem kept_bonds_keep_ranking :
    (fresh (.new .powerOff none) (.new .empty)).reported (.start :: pairingParts) = false ∧
      paired.session.device.unsaved = false ∧ paired.cache.needsSave = false ∧
      paired.session.device.ranking.toList = [BondTable.peerOf 0] ∧
      ((repowered paired.unit.bonds).did .start).session.device.ranking =
        paired.session.device.ranking := by
  have silent : (fresh (.new .powerOff none) (.new .empty)).reported (.start :: pairingParts) =
      false := by decide +kernel
  have saved : paired.session.device.unsaved = false := by decide +kernel
  have clean : paired.cache.needsSave = false := by decide +kernel
  have single : paired.session.device.ranking.toList = [BondTable.peerOf 0] := by decide +kernel
  obtain ⟨-, -, survives, -⟩ := power_cycle_keeps_bonded_peers (assemble_eq _ _) ⟨rfl, trivial⟩
    pairingParts silent saved clean rfl ⟨by decide +kernel, trivial⟩
    (assemble_eq { RadioUnit.new .powerOff none with bonds := paired.unit.bonds } paired.flash)
  refine ⟨silent, saved, clean, single, survives.2 fun peer ranked => ?_⟩
  have same : peer = BondTable.peerOf 0 := List.mem_singleton.1 (single ▸ ranked)
  rw [same]
  decide +kernel

/-- The bond is there when the device is switched off, its ranking is in the flash and nothing was
reported; still there is no ranking behind the next start. -/
theorem power_cycle_loses_ranking :
    assemble (.new .powerOff none) (.new .empty) =
        .ok (fresh (.new .powerOff none) (.new .empty) : Engine Chip) ∧
      (fresh (.new .powerOff none) (.new .empty)).reported (.start :: pairingParts) = false ∧
      paired.session.device.unsaved = false ∧ paired.cache.needsSave = false ∧
      paired.unit.bonds.Has (BondTable.peerOf 0) ∧
      assemble (.new .powerOff none) paired.flash = .ok (repowered .empty) ∧
      paired.session.device.ranking.toList = [BondTable.peerOf 0] ∧
      ((repowered .empty).did .start).session.device.ranking.toList = [] :=
  ⟨assemble_eq _ _, by decide +kernel, by decide +kernel, by decide +kernel, by decide +kernel,
    assemble_eq _ _, by decide +kernel, by decide +kernel⟩

end Bench

end Firmware.Engine

end BondedMouse
