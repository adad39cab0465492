import BondedMouse.Proofs.Controller.Saving
import BondedMouse.Proofs.Firmware.Outcomes
import BondedMouse.Proofs.Radio.Moves
import BondedMouse.Proofs.Ranking.Codec
import BondedMouse.Proofs.Storage.Durability

/-! # The last record of the ranking

Once the flash has held a record of a ranking, a failed save does not cost it, and an
erased region is written anew as long as the saves are tried.  The one way to lose it is
a save that is given up while the region is empty: then what is pending is dropped, and
the rewrite that the erasure calls for with it.
-/

namespace BondedMouse

open Firmware
open KeepsItems (item?)

/-! ## What the controller does to the cache -/

/-- Writes of well-formed rankings. -/
inductive Stowed (cache : RecordCache) : RecordCache → Prop
  | kept : Stowed cache cache
  | wrote {middle : RecordCache} {ranking : Ranking} (stowed : Stowed cache middle)
      (formed : ranking.WellFormed) :
      Stowed cache (RecordCache.write Ranking.Record.key ranking.encode middle).2

/-- Of a controller on its platform: the ranking is well formed, no report of a full store waits,
and of the cache it is known what was written since. -/
structure Tends (cache : RecordCache) (device : Device Platform) : Prop where
  formed : device.ranking.WellFormed
  quiet : .storageFull ∉ device.env.1.events.items
  stowed : Stowed cache device.env.2

theorem SparesRecords.platform {env last : Platform} (spares : SparesRecords env last) :
    last.2 = env.2 ∧ ∀ {event}, event ∈ last.1.events.items →
      event ∈ env.1.events.items ∨ event = .bondsErased := by
  induction spares with
  | none => exact ⟨rfl, .inl⟩
  | @request last _ request ih =>
    refine ⟨ih.1, fun {event} posted => ?_⟩
    obtain before | erased : event ∈ last.1.events.items ∨ event = .bondsErased :=
      RadioUnit.mem_events_request posted
    · exact ih.2 before
    · exact .inr erased

namespace Tends

variable {cache : RecordCache} {device after : Device Platform}

theorem spares (tends : Tends cache device) (spares : Spares device after) : Tends cache after := by
  obtain ⟨same, posted⟩ := spares.records.platform
  refine ⟨?_, fun full => ?_, ?_⟩
  · rw [spares.ranking]
    exact tends.formed
  · obtain before | erased := posted full
    · exact tends.quiet before
    · cases erased
  · rw [same]
    exact tends.stowed

theorem flushed (tends : Tends cache device) :
    Tends cache (Controller.final (Controller.saveRanking device)) := by
  have flushes := Controller.saveRanking_flushes device
  generalize Controller.saveRanking device = result at flushes
  cases flushes with
  | clean saved => exact tends
  | written | waits | givenUp => exact ⟨tends.formed, tends.quiet, tends.stowed.wrote tends.formed⟩

theorem maintained (cache : RecordCache) : Maintained (Tends cache) where
  spares := spares
  flushed := flushed
  restored := by
    intro device tends
    have formed := Ranking.wellFormed_closed.restore tends.formed device.env
    refine ⟨formed, ?_, ?_⟩
    · rw [device.env_restored]
      exact tends.quiet
    · rw [device.env_restored]
      exact tends.stowed
  pruned := by
    intro device tends
    exact ⟨Ranking.wellFormed_closed.retain _ tends.formed, tends.quiet, tends.stowed⟩
  inserted := by
    intro device peer tends
    exact ⟨Ranking.wellFormed_closed.insert peer tends.formed, tends.quiet, tends.stowed⟩
  emptied := by
    intro device tends
    exact ⟨Ranking.wellFormed_closed.empty, tends.quiet, tends.stowed⟩

end Tends

namespace Firmware

/-! ## What the main loop does to the cache -/

section Loop

variable {φ : Type}

namespace Engine

open EngineM Controller

/-- An engine whose controller tends the cache, over a region that is not touched. -/
structure Attends (cache : RecordCache) (flash : φ) (engine : Engine φ) : Prop where
  wired : engine.session.Wired
  tends : Tends cache engine.session.device
  flash : engine.flash = flash

namespace Attends

variable {cache : RecordCache} {flash : φ} {engine : Engine φ}

theorem control (attends : engine.Attends cache flash) {operation : ControlM Platform Unit}
    (tends : Tends cache (Controller.final (operation engine.session.device))) :
    (left (Engine.control operation engine)).Attends cache flash := by
  rw [← Session.control_device] at tends
  rw [left_control]
  exact ⟨wired_control attends.wired operation, tends, attends.flash⟩

theorem setEvents (attends : engine.Attends cache flash) (unit : RadioUnit)
    (posted : ∀ {event}, event ∈ unit.events.items → event ∈ engine.unit.events.items ∨
      event ≠ .storageFull) : (engine.setUnit unit).Attends cache flash where
  wired := attends.wired
  tends := {
    formed := attends.tends.formed
    quiet := fun full => (posted full).elim attends.tends.quiet fun other => other rfl
    stowed := attends.tends.stowed }
  flash := attends.flash

theorem timerStep (attends : engine.Attends cache flash) :
    ({ engine with session := engine.session.timerStep }).Attends cache flash where
  wired := attends.wired.timerStep
  tends := attends.tends.spares (Session.timerStep_spares attends.wired)
  flash := attends.flash

theorem tick (attends : engine.Attends cache flash) :
    (left (Engine.control Controller.tick engine)).Attends cache flash :=
  attends.control ((Tends.maintained cache).tick attends.tends)

theorem lasting (cache : RecordCache) (flash : φ) : Lasting (Attends cache flash) where
  event := by
    intro engine event events waits attends
    have items := Channel.receive?_eq_some_iff.1 waits
    have other : event ≠ .storageFull := fun full =>
      attends.tends.quiet (show _ ∈ engine.unit.events.items by simp [items, full])
    have taken : (engine.setUnit { engine.unit with events }).Attends cache flash :=
      attends.setEvents _ fun {later} behind => .inl (by rw [items]; exact .tail _ behind)
    exact taken.control ((Tends.maintained cache).event other taken.tends)
  request := by
    intro engine presses request attends
    have taken : ({ engine with presses }).Attends cache flash :=
      ⟨attends.wired, attends.tends, attends.flash⟩
    exact taken.control (taken.tends.spares (onRequest_spares _ _))
  tick := tick
  timerStep := timerStep

theorem drive (attends : engine.Attends cache flash) :
    (left (Engine.drive engine)).Attends cache flash :=
  (lasting cache flash).drive attends

theorem start (attends : engine.Attends cache flash) :
    (left (Engine.control Controller.start engine)).Attends cache flash :=
  attends.control ((Tends.maintained cache).start attends.tends)

theorem timerTick (attends : engine.Attends cache flash) : engine.tick.Attends cache flash :=
  ⟨attends.wired, attends.tends.spares { Spares.refl engine.session.device with }, attends.flash⟩

theorem polls (attends : engine.Attends cache flash) :
    engine.pollButtons.pollAdvertiser.Attends cache flash := by
  obtain ⟨board, presses, buttons, pressed⟩ := engine.pollButtons_eq
  have polled : engine.pollButtons.Attends cache flash := by
    have changed := attends.setEvents { engine.unit with board } .inl
    rw [pressed]
    exact ⟨changed.wired, changed.tends, changed.flash⟩
  have advertised := polled.setEvents (engine.pollButtons.advertiser.poll
    engine.pollButtons.unit).1 fun {event} posted => ?_
  · exact ⟨advertised.wired, advertised.tends, advertised.flash⟩
  obtain before | report := Advertiser.mem_events_poll posted
  · exact .inl before
  · refine .inr fun full => ?_
    rw [full] at report
    cases report

end Attends

end Engine

end Loop

/-! ## The record of the ranking -/

section Record

variable {φ : Type} [Flash φ] [KeepsItems φ]

/-- The bytes are a record of a ranking. -/
def IsRecord (bytes : List UInt8) : Prop :=
  (Ranking.decode? bytes).isSome = true

/-- The flash holds a record of a ranking. -/
def holdsRanking (flash : φ) : Bool :=
  ((item? Ranking.Record.key flash).bind Ranking.decode?).isSome

theorem isRecord_encode {ranking : Ranking} (formed : ranking.WellFormed) :
    IsRecord ranking.encode := by
  rw [IsRecord, Ranking.decode?_eq_some_iff.2 ⟨formed, rfl⟩]
  rfl

theorem holdsRanking_of_item {flash : φ} {bytes : List UInt8}
    (item : item? Ranking.Record.key flash = some bytes) (record : IsRecord bytes) :
    holdsRanking flash = true := by
  rw [holdsRanking, item]
  exact record

theorem holdsRanking_congr {flash other : φ}
    (same : item? Ranking.Record.key other = item? Ranking.Record.key flash) :
    holdsRanking other = holdsRanking flash := by
  rw [holdsRanking, holdsRanking, same]

/-- How cache and flash stand to the record of the ranking, given whether the flash has held one,
and whether since then a save was given up that found none. -/
inductive Stands (held forgotten : Bool) (cache : RecordCache) (flash : φ) : Prop
  /-- Nothing was written since the start. -/
  | untouched (clean : cache.needsSave = false) (never : forgotten = false)
      (holds : held = true → holdsRanking flash = true)
  | cached {record : CachedRecord} (found : cache.find? Ranking.Record.key = some record)
      (ranking : IsRecord record.bytes)
      (settled : record.dirty = false → holdsRanking flash = !forgotten)

namespace Stands

variable {held forgotten : Bool} {cache after : RecordCache} {flash other : φ}

/-- While the flash keeps its items, only its record of the ranking tells what was forgotten. -/
theorem passes (stands : Stands held forgotten cache flash)
    (same : item? Ranking.Record.key other = item? Ranking.Record.key flash) :
    Stands (held || holdsRanking other) (!holdsRanking other && forgotten) cache other := by
  rw [holdsRanking_congr same]
  cases stands with
  | untouched clean never holds =>
    refine .untouched clean (by simp [never]) fun before => ?_
    rw [holdsRanking_congr same]
    simpa using (Bool.or_eq_true_iff.1 before).imp_left holds
  | cached found ranking settled =>
    refine .cached found ranking fun clean => ?_
    rw [holdsRanking_congr same, settled clean]
    cases forgotten <;> rfl

theorem stowed (stands : Stands held forgotten cache flash) (formed : cache.WellFormed)
    (stowed : Stowed cache after) : after.WellFormed ∧ Stands held forgotten after flash := by
  induction stowed with
  | kept => exact ⟨formed, stands⟩
  | @wrote middle ranking _ encoded ih =>
    obtain ⟨formed, stands⟩ := ih
    have kept : (BackedCache.moved ⟨middle, flash⟩
        (.write Ranking.Record.key ranking.encode)).cache.WellFormed :=
      BackedCache.wellFormed_moved formed _
    refine ⟨kept, ?_⟩
    have writes := RecordCache.write_writes Ranking.Record.key ranking.encode middle
    cases wrote : RecordCache.write Ranking.Record.key ranking.encode middle with
    | mk result after =>
      rw [wrote] at writes
      cases result with
      | error error =>
        cases writes
        exact stands
      | ok value =>
        have found := writes.find? Ranking.Record.key
        rw [if_pos rfl] at found
        exact .cached found (isRecord_encode encoded) fun clean => by cases clean

end Stands

/-! ## Saves -/

/-- What a save makes of the record of the ranking: it is tried and the item is as before, or it is
left dirty, or it is stored. -/
theorem saved_cases {cache : RecordCache} {record : CachedRecord} (formed : cache.WellFormed)
    (found : cache.find? Ranking.Record.key = some record) (flash : φ) :
    ∃ kept, (cache.save flash).2.1.find? Ranking.Record.key = some kept ∧
      kept.bytes = record.bytes ∧
      (kept.dirty = false → (record.dirty = false ∧
          item? Ranking.Record.key (cache.save flash).2.2 = item? Ranking.Record.key flash) ∨
        item? Ranking.Record.key (cache.save flash).2.2 = some record.bytes) := by
  have saves := RecordCache.save_saves formed.distinct flash
  generalize cache.save flash = result at saves
  cases saves with
  | refused collect failed items =>
    exact ⟨record, found, rfl, fun clean => .inl ⟨clean, items _⟩⟩
  | erased collect done bare passes clean =>
    have marked := RecordCache.find?_marked Ranking.Record.key cache.records
    rw [show cache.records.find? _ = some record from found] at marked
    obtain ⟨kept, located, became⟩ := passes.held marked
    refine ⟨kept, located, became.bytes, fun clean => ?_⟩
    obtain ⟨dirty, -⟩ | stored := became.item_of_clean clean
    · cases dirty
    · exact .inr stored
  | plain keep passes clean =>
    obtain ⟨kept, located, became⟩ := passes.held found
    exact ⟨kept, located, became.bytes, became.item_of_clean⟩

namespace Engine

open EngineM

/-- The save that is due is the one that is given up. -/
def givesUp (engine : Engine φ) : Bool :=
  engine.cache.needsSave &&
    match (engine.budget.count (engine.cache.save engine.flash).1).1 with
    | .giveUp _ => true
    | .done | .retry | .collect => false

/-- Parts of the life of an engine, each taken to its end or to a fault.  Beside the main loop the
radio may change on its own, unless it reports a full store, and so may the flash, but not in
its items. -/
inductive Part (φ : Type) [Flash φ] [KeepsItems φ]
  | start
  | drive
  | sync
  | tick
  | polls
  | radio (change : RadioUnit → RadioUnit)
      (posts : ∀ unit, .storageFull ∈ (change unit).events.items → .storageFull ∈ unit.events.items)
  | flash (change : φ → φ) (keeps : ∀ key flash, item? key (change flash) = item? key flash)

def did (engine : Engine φ) : Part φ → Engine φ
  | .start => left (control Controller.start engine)
  | .drive => left (engine.drive)
  | .sync => left (engine.sync)
  | .tick => engine.tick
  | .polls => engine.pollButtons.pollAdvertiser
  | .radio change _ => engine.setUnit (change engine.unit)
  | .flash change _ => { engine with flash := change engine.flash }

def after (engine : Engine φ) (parts : List (Part φ)) : Engine φ :=
  parts.foldl did engine

/-- The flash has held a record of a ranking at some time. -/
def heldThrough : Engine φ → List (Part φ) → Bool
  | engine, [] => holdsRanking engine.flash
  | engine, part :: rest => holdsRanking engine.flash || heldThrough (engine.did part) rest

/-- After a part: a save was given up, and the flash has held no record of a ranking since. -/
def forgets (engine : Engine φ) (forgotten : Bool) (part : Part φ) : Bool :=
  !holdsRanking (engine.did part).flash &&
    match part with
    | .sync => forgotten || engine.givesUp
    | .start | .drive | .tick | .polls | .radio _ _ | .flash _ _ => forgotten

/-- A save was given up, and the flash has held no record of a ranking since. -/
def forgottenThrough : Bool → Engine φ → List (Part φ) → Bool
  | forgotten, _, [] => forgotten
  | forgotten, engine, part :: rest =>
    forgottenThrough (engine.forgets forgotten part) (engine.did part) rest

/-! ## The invariant -/

/-- What holds of an engine that was assembled, whatever it lives through. -/
structure Custody (held forgotten : Bool) (engine : Engine φ) : Prop where
  wired : engine.session.Wired
  formed : engine.session.device.ranking.WellFormed
  quiet : .storageFull ∉ engine.unit.events.items
  cache : engine.cache.WellFormed
  stands : Stands held forgotten engine.cache engine.flash

namespace Custody

variable {held forgotten : Bool} {engine next : Engine φ}

theorem attends (custody : engine.Custody held forgotten) :
    engine.Attends engine.cache engine.flash :=
  ⟨custody.wired, ⟨custody.formed, custody.quiet, .kept⟩, rfl⟩

/-- A part that only tends the cache. -/
theorem attended (custody : engine.Custody held forgotten)
    (attends : next.Attends engine.cache engine.flash) :
    next.Custody (held || holdsRanking next.flash) (!holdsRanking next.flash && forgotten) := by
  have same : item? Ranking.Record.key next.flash = item? Ranking.Record.key engine.flash := by
    rw [attends.flash]
  obtain ⟨formed, stands⟩ := (custody.stands.passes same).stowed custody.cache attends.tends.stowed
  exact ⟨attends.wired, attends.tends.formed, attends.tends.quiet, formed, stands⟩

/-- A save leaves a clean record only where the flash has it, unless that is forgotten. -/
theorem tried_record (custody : engine.Custody held forgotten)
    (needs : engine.cache.needsSave = true) :
    ∃ kept, engine.tried.cache.find? Ranking.Record.key = some kept ∧ IsRecord kept.bytes ∧
      (kept.dirty = false → holdsRanking engine.tried.flash =
        !(!holdsRanking engine.tried.flash && forgotten)) := by
  cases custody.stands with
  | untouched clean => cases needs.symm.trans clean
  | cached found ranking settled =>
    obtain ⟨kept, located, bytes, saved⟩ := saved_cases custody.cache found engine.flash
    refine ⟨kept, located, by rwa [bytes], fun clean => ?_⟩
    obtain ⟨before, item⟩ | stored := saved clean
    · have same : holdsRanking engine.tried.flash = holdsRanking engine.flash :=
        holdsRanking_congr item
      rw [same, settled before]
      cases forgotten <;> rfl
    · have holds : holdsRanking engine.tried.flash = true := holdsRanking_of_item stored ranking
      rw [holds]
      rfl

theorem sync (custody : engine.Custody held forgotten) :
    (left engine.sync).Custody (held || holdsRanking (left engine.sync).flash)
      (!holdsRanking (left engine.sync).flash && (forgotten || engine.givesUp)) := by
  rw [left_sync]
  unfold givesUp
  cases needs : engine.cache.needsSave with
  | false => simpa using custody.attended custody.attends
  | true =>
    obtain ⟨kept, located, ranking, settled⟩ := custody.tried_record needs
    have formed : (BackedCache.moved ⟨engine.cache, engine.flash⟩ .save).cache.WellFormed :=
      BackedCache.wellFormed_moved custody.cache .save
    generalize (engine.budget.count (engine.cache.save engine.flash).1).1 = verdict
    cases verdict with
    | done | retry =>
      simp only [if_true, Bool.and_false, Bool.or_false]
      exact ⟨custody.wired, custody.formed, custody.quiet, formed, .cached located ranking settled⟩
    | collect =>
      have collected :
          (BackedCache.moved ⟨engine.tried.cache, engine.flash⟩ .reclaim).cache.WellFormed :=
        BackedCache.wellFormed_moved formed .reclaim
      have same : engine.tried.cache.reclaim.2.find? Ranking.Record.key =
          engine.tried.cache.find? Ranking.Record.key := by
        unfold RecordCache.reclaim
        split <;> rfl
      have device : (engine.tried.session.control (Controller.onEvent .storageFull)).2.device =
          { engine.tried.session.device with
            env := (RecordStore.reclaim engine.tried.session.device.env).2 } := by
        rw [Session.control_device]
        exact Controller.final_onStorageFull engine.tried.session.device
      simp only [if_true, Bool.and_false, Bool.or_false]
      rw [left_control]
      have wired : engine.tried.session.Wired := custody.wired
      refine ⟨wired_control wired _, ?_, ?_, ?_, ?_⟩
      · show (engine.tried.session.control _).2.device.ranking.WellFormed
        rw [device]
        exact custody.formed
      · show _ ∉ (engine.tried.session.control _).2.device.env.1.events.items
        rw [device]
        exact custody.quiet
      · show (engine.tried.session.control _).2.device.env.2.WellFormed
        rw [device]
        exact collected
      · show Stands _ _ (engine.tried.session.control _).2.device.env.2 engine.tried.flash
        rw [device]
        exact .cached (same.trans located) ranking settled
    | giveUp error =>
      -- What is dropped counts as saved, so all that is left to go by is the flash.
      have dropped :
          (BackedCache.moved ⟨engine.tried.cache, engine.flash⟩ .dropPending).cache.WellFormed :=
        BackedCache.wellFormed_moved formed .dropPending
      have found := RecordCache.find?_dropPending Ranking.Record.key engine.tried.cache
      rw [located] at found
      simp only [if_true, Bool.and_true, Bool.or_true]
      refine ⟨custody.wired, custody.formed, custody.quiet, dropped, .cached found ranking ?_⟩
      exact fun _ => (Bool.not_not _).symm

theorem did (custody : engine.Custody held forgotten) (part : Part φ) :
    (engine.did part).Custody (held || holdsRanking (engine.did part).flash)
      (engine.forgets forgotten part) := by
  cases part with
  | start => exact custody.attended custody.attends.start
  | drive => exact custody.attended custody.attends.drive
  | sync => exact custody.sync
  | tick => exact custody.attended custody.attends.timerTick
  | polls => exact custody.attended custody.attends.polls
  | radio change posts =>
    refine custody.attended (custody.attends.setEvents _ fun {event} posted => ?_)
    by_cases full : event = .storageFull
    · subst full
      exact .inl (posts _ posted)
    · exact .inr full
  | flash change keeps =>
    exact ⟨custody.wired, custody.formed, custody.quiet, custody.cache,
      custody.stands.passes (keeps _ _)⟩

end Custody

/-! ## The first engine -/

omit [KeepsItems φ] in
/-- An assembled engine has the cache that was loaded, and an empty ranking. -/
theorem assembled {unit : RadioUnit} {flash : φ} {first : Engine φ}
    (assembled : assemble unit flash = .ok first) :
    first.session.Wired ∧ first.session.device.ranking.WellFormed ∧ first.unit = unit ∧
      first.cache = (RecordCache.empty.load [Ranking.Record.key] flash).1 ∧
      first.flash = (RecordCache.empty.load [Ranking.Record.key] flash).2 := by
  rw [assemble_eq] at assembled
  cases assembled
  exact ⟨wired_fresh unit flash, Ranking.wellFormed_closed.empty, rfl, rfl, rfl⟩

theorem Custody.of_assembled {unit : RadioUnit} {flash : φ} {first : Engine φ}
    (ready : assemble unit flash = .ok first) (quiet : .storageFull ∉ unit.events.items) :
    first.Custody (holdsRanking first.flash) false := by
  obtain ⟨wired, formed, rfl, cache, flashed⟩ := assembled ready
  have single : [Ranking.Record.key].Nodup := List.nodup_singleton _
  have drawn := RecordCache.load_drawn single .empty flash
  refine ⟨wired, formed, quiet, ?_, .untouched ?_ rfl id⟩
  · rw [cache]
    exact drawn.formed
  · rw [cache]
    exact RecordCache.load_needsSave single flash

/-! ## Runs -/

/-- The present state counts. -/
theorem heldThrough_of_holds (engine : Engine φ) (parts : List (Part φ))
    (holds : holdsRanking engine.flash = true) : engine.heldThrough parts = true := by
  cases parts <;> simp [heldThrough, holds]

theorem Custody.after {held forgotten : Bool} {engine : Engine φ}
    (custody : engine.Custody held forgotten) (holds : holdsRanking engine.flash = true → held = true)
    (parts : List (Part φ)) :
    (engine.after parts).Custody (held || engine.heldThrough parts)
      (engine.forgottenThrough forgotten parts) := by
  induction parts generalizing held forgotten engine with
  | nil =>
    have same : (held || holdsRanking engine.flash) = held := by simpa using holds
    show engine.Custody (held || holdsRanking engine.flash) forgotten
    rwa [same]
  | cons part parts ih =>
    have later := ih (custody.did part) (by simp +contextual)
    have same : (held || holdsRanking (engine.did part).flash || (engine.did part).heldThrough parts) =
        (held || engine.heldThrough (part :: parts)) := by
      have now := heldThrough_of_holds (engine.did part) parts
      have before : (held || holdsRanking engine.flash) = held := by simpa using holds
      rw [heldThrough, ← Bool.or_assoc, before, Bool.or_assoc]
      congr 1
      simpa using now
    rwa [same] at later

/-! ## The parts of a machine's life -/

theorem after_append (engine : Engine φ) (parts more : List (Part φ)) :
    engine.after (parts ++ more) = (engine.after parts).after more :=
  List.foldl_append

theorem leading_after :
    Leading fun engine last : Engine φ => ∃ parts : List (Part φ), last = engine.after parts where
  refl engine := ⟨[], rfl⟩
  trans := by
    rintro engine middle last ⟨parts, rfl⟩ ⟨more, rfl⟩
    exact ⟨parts ++ more, (after_append engine parts more).symm⟩
  drive engine := ⟨[.drive], rfl⟩
  sync engine := ⟨[.sync], rfl⟩
  clock engine :=
    ⟨[.radio (fun unit => { unit with board := unit.board.advanceClock }) fun _ => id], rfl⟩
  tick engine := ⟨[.tick], rfl⟩
  polls engine := ⟨[.polls], rfl⟩

/-- Whatever a machine comes to when it is switched on and runs, it comes to in parts. -/
theorem run_inParts {unit : RadioUnit} {flash : φ} {time : Nat} {engine : Engine φ}
    (ran : (Machine.run time (.off unit flash)).2 = .on engine) :
    ∃ first parts, assemble (setUp unit) flash = .ok first ∧
      engine = first.after (.start :: parts) := by
  obtain ⟨parts, reached⟩ := leading_after.run ran
  exact ⟨_, parts, assemble_eq (setUp unit) flash, reached⟩

/-- Once the flash has held a record of a ranking, it holds one whenever there is nothing to save,
unless a save was given up that found none there, and none was stored since. -/
theorem ranking_lost_only_when_given_up {unit : RadioUnit} {flash : φ} {first : Engine φ}
    (ready : assemble unit flash = .ok first) (quiet : .storageFull ∉ unit.events.items)
    (parts : List (Part φ)) (held : first.heldThrough parts = true)
    (clean : (first.after parts).cache.needsSave = false) :
    holdsRanking (first.after parts).flash = !first.forgottenThrough false parts := by
  have custody := (Custody.of_assembled ready quiet).after id parts
  cases custody.stands with
  | untouched _ never holds =>
    rw [never]
    exact holds (by rw [held, Bool.or_true])
  | cached found ranking settled =>
    refine settled ?_
    have clean := (Bool.or_eq_false_iff.1 clean).2
    simpa using List.any_eq_false.1 clean _ (RecordCache.find?_eq_some found).1

section Bench

/-- The record of a ranking with one peer. -/
def wornRecord : List UInt8 := [1, 255, 255, 255, 255, 221, 204, 187, 170]

/-- A chip that holds the record of a ranking and has no room for another. -/
def wornChip : Chip :=
  { Chip.new (RecordMap.empty.insert Ranking.Record.key wornRecord) with filled := true }

/-- A device with that chip before its first polls.  Its bonds are lost, so it has a ranking to
save. -/
def worn : Engine Chip where
  session := .fresh .empty (.new .powerOff none, ⟨[⟨Ranking.Record.key, wornRecord, false⟩], false⟩)
  flash := wornChip
  budget := .fresh
  presses := .empty
  buttons := buttonPins.map fun (button, pin) => .new button pin
  advertiser := .new

theorem assemble_worn : assemble (.new .powerOff none) wornChip = .ok worn := by
  rw [assemble_eq]
  rfl

/-- The chip stops to take writes, or takes them again. -/
def writing (fails : Bool) : Part Chip :=
  .flash (fun chip => { chip with writeFails := fails }) fun _ _ => rfl

/-- The region is full, and erased at the next save. -/
def collectingParts : List (Part Chip) := [.start, .drive, .sync, .polls, .drive, .sync, .tick, .polls]

/-- The same, but no save behind the erasure succeeds until the last of them is given up. -/
def failingParts : List (Part Chip) :=
  [.start, .drive, .sync, .polls, writing true, .drive, .sync, .tick, .polls, .drive, .sync, .tick,
    .polls, writing false, .drive, .sync]

theorem full_region_keeps_ranking :
    assemble (.new .powerOff none) wornChip = .ok worn ∧
    worn.heldThrough collectingParts = true ∧
    (worn.after collectingParts).cache.needsSave = false ∧
    holdsRanking (worn.after collectingParts).flash = true := by
  have held : worn.heldThrough collectingParts = true := by decide +kernel
  have clean : (worn.after collectingParts).cache.needsSave = false := by decide +kernel
  have kept := ranking_lost_only_when_given_up assemble_worn (by decide) collectingParts held clean
  have remembered : worn.forgottenThrough false collectingParts = false := by decide +kernel
  rw [remembered] at kept
  exact ⟨assemble_worn, held, clean, kept⟩

/-- The flash held a ranking, nothing is left to save, and the ranking is gone. -/
theorem given_up_save_loses_ranking :
    assemble (.new .powerOff none) wornChip = .ok worn ∧
    worn.heldThrough failingParts = true ∧
    (worn.after failingParts).cache.needsSave = false ∧
    holdsRanking (worn.after failingParts).flash = false :=
  ⟨assemble_worn, by decide +kernel, by decide +kernel, by decide +kernel⟩

end Bench

end Engine

end Record

end Firmware

end BondedMouse
