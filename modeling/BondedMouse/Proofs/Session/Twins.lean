import BondedMouse.Controller.Platform
import BondedMouse.Proofs.Controller.Issued
import BondedMouse.Proofs.Controller.Twins
import BondedMouse.Proofs.Session.Flags
import Mathlib.Control.Monad.Basic

/-! # Two sessions on two stores

Two sessions are powered up alike and do the same operations, the one on a record store
and the other on another.  As long as the stores answer the reads alike, the sessions
differ in nothing but the save of the ranking, and their stacks are asked for the same.
Trouble with a store is returned, and that is all that comes of it.
-/

namespace BondedMouse

open Controller

variable {ε₁ ε₂ : Type} {alike : ε₁ → ε₂ → Prop}

/-! ## Twin schedulers -/

/-- Both callbacks are missing, or both are there and keep devices twins. -/
inductive TwinCallbacks (alike : ε₁ → ε₂ → Prop) :
    Option (Device ε₁ → Device ε₁) → Option (Device ε₂ → Device ε₂) → Prop
  | none : TwinCallbacks alike none none
  | some {callback : Device ε₁ → Device ε₁} {other : Device ε₂ → Device ε₂}
      (keeps : ∀ {left right}, Twins alike left right → Twins alike (callback left) (other right)) :
      TwinCallbacks alike (some callback) (some other)

structure TwinSchedulers (alike : ε₁ → ε₂ → Prop) (left : Scheduler (Device ε₁))
    (right : Scheduler (Device ε₂)) : Prop where
  lastTick : left.lastTick = right.lastTick
  callbacks (place : Fin TimerPool.size) :
    TwinCallbacks alike (left.callback? place) (right.callback? place)

namespace TwinSchedulers

variable {left : Scheduler (Device ε₁)} {right : Scheduler (Device ε₂)} {device : Device ε₁}
  {other : Device ε₂}

theorem new (pool : TimerPool) :
    TwinSchedulers alike (.new pool : Scheduler (Device ε₁))
      (.new pool : Scheduler (Device ε₂)) where
  lastTick := rfl
  callbacks place := by
    rw [Scheduler.callback?_new, Scheduler.callback?_new]
    exact .none

/-- How the registrations of a callback end that are made with two schedulers and one pool. -/
inductive Registers (alike : ε₁ → ε₂ → Prop) :
    Option (TimerHandle × Scheduler (Device ε₁) × TimerPool) →
      Option (TimerHandle × Scheduler (Device ε₂) × TimerPool) → Prop
  | full : Registers alike none none
  | registered {timer : TimerHandle} {left : Scheduler (Device ε₁)} {right : Scheduler (Device ε₂)}
      {pool : TimerPool} (twins : TwinSchedulers alike left right) :
      Registers alike (some (timer, left, pool)) (some (timer, right, pool))

theorem register (twins : TwinSchedulers alike left right) (pool : TimerPool)
    {callback : Device ε₁ → Device ε₁} {answer : Device ε₂ → Device ε₂}
    (keeps : ∀ {left right}, Twins alike left right → Twins alike (callback left) (answer right)) :
    Registers alike (left.register pool callback) (right.register pool answer) := by
  unfold Scheduler.register
  cases pool.reserve with
  | none => exact .full
  | some taken =>
    obtain ⟨⟨index⟩, after⟩ := taken
    refine .registered ⟨twins.lastTick, fun place => ?_⟩
    simp only [Scheduler.callback?, Fin.getElem_fin, Vector.getElem_set]
    split
    · exact .some keeps
    · exact twins.callbacks place

theorem runSlot (twins : TwinSchedulers alike left right) (devices : Twins alike device other)
    (place : Fin TimerPool.size) :
    Twins alike (left.runSlot device place) (right.runSlot other place) := by
  have callbacks := twins.callbacks place
  unfold Scheduler.runSlot
  generalize left.callback? place = callback at callbacks
  generalize right.callback? place = answer at callbacks
  cases callbacks with
  | none => exact devices
  | some keeps =>
    have timers : HasTimers.timers device = HasTimers.timers other := devices.timers
    dsimp only
    rw [timers]
    split
    · exact keeps { devices with timers := rfl }
    · exact devices

theorem sweep (twins : TwinSchedulers alike left right) (devices : Twins alike device other) :
    Twins alike (left.sweep device) (right.sweep other) := by
  unfold Scheduler.sweep
  generalize List.finRange TimerPool.size = places
  induction places generalizing device other with
  | nil => exact devices
  | cons place places ih => exact ih (twins.runSlot devices place)

end TwinSchedulers

/-! ## Twin sessions -/

theorem Session.control_eq {ε : Type} (operation : ControlM ε Unit) (session : Session ε) :
    session.control operation =
      (returned (operation session.device),
        { session with device := final (operation session.device) }) := by
  rw [Session.control_apply]
  cases operation session.device <;> rfl

structure TwinSessions (alike : ε₁ → ε₂ → Prop) (left : Session ε₁) (right : Session ε₂) :
    Prop where
  device : Twins alike left.device right.device
  scheduler : TwinSchedulers alike left.scheduler right.scheduler

section Sessions

variable [RadioStack ε₁] [RadioStack ε₂] [RecordStore ε₁] [RecordStore ε₂]
  {left : Session ε₁} {right : Session ε₂}

namespace TwinSessions

omit [RadioStack ε₁] [RadioStack ε₂] [RecordStore ε₁] [RecordStore ε₂] in
theorem timerStep (twins : TwinSessions alike left right) :
    TwinSessions alike left.timerStep right.timerStep := by
  have stepped : TwinSchedulers alike (left.scheduler.step left.device).1
        (right.scheduler.step right.device).1 ∧
      Twins alike (left.scheduler.step left.device).2 (right.scheduler.step right.device).2 := by
    have now : (HasTimers.timers left.device).now = (HasTimers.timers right.device).now :=
      congrArg TimerPool.now twins.device.timers
    unfold Scheduler.step
    dsimp only
    rw [now, twins.scheduler.lastTick]
    split
    · exact ⟨twins.scheduler, twins.device⟩
    · exact ⟨{ twins.scheduler with lastTick := rfl }, twins.scheduler.sweep twins.device⟩
  exact ⟨stepped.2, stepped.1⟩

omit [RadioStack ε₁] [RadioStack ε₂] [RecordStore ε₁] [RecordStore ε₂] in
theorem reserveTimers (count : Nat) (pool : TimerPool) {left : Scheduler (Device ε₁)}
    {right : Scheduler (Device ε₂)} (twins : TwinSchedulers alike left right) :
    TwinSchedulers alike (Session.reserveTimers count left pool).1
        (Session.reserveTimers count right pool).1 ∧
      (Session.reserveTimers count left pool).2 = (Session.reserveTimers count right pool).2 := by
  induction count with
  | zero => exact ⟨twins, rfl⟩
  | succ count ih =>
    obtain ⟨schedulers, pools⟩ := ih
    have idles {left : Device ε₁} {right : Device ε₂} (twins : Twins alike left right) :
        Twins alike (id left) (id right) := twins
    simp only [Session.reserveTimers, Nat.repeat] at schedulers pools ⊢
    generalize count.repeat _ (left, pool) = before at schedulers pools ⊢
    generalize count.repeat _ (right, pool) = other at schedulers pools ⊢
    rw [← pools]
    have registers := schedulers.register before.2 idles
    generalize before.1.register before.2 id = result at registers ⊢
    generalize other.1.register before.2 id = answer at registers ⊢
    cases registers with
    | full => exact ⟨schedulers, rfl⟩
    | registered twins => exact ⟨twins, rfl⟩

theorem powerUp (blind : StoreBlind alike) {ranking : Ranking} {env : ε₁} {other : ε₂}
    {reserved : Nat} (powered : Session.powerUp ranking env reserved = .ok left)
    (poweredToo : Session.powerUp ranking other reserved = .ok right) (same : alike env other) :
    TwinSessions alike left right := by
  obtain ⟨schedulers, pools⟩ := reserveTimers reserved .idle (.new .idle : TwinSchedulers alike _ _)
  have registers := schedulers.register
    (Session.reserveTimers reserved (.new .idle : Scheduler (Device ε₁)) .idle).2
    (Twins.onScanTimer blind)
  simp only [Session.powerUp] at powered poweredToo
  rw [← pools] at poweredToo
  generalize Scheduler.register _ _ (onScanTimer : Device ε₁ → Device ε₁) = result
    at registers powered
  generalize Scheduler.register _ _ (onScanTimer : Device ε₂ → Device ε₂) = answer
    at registers poweredToo
  cases registers with
  | full => cases powered
  | registered twins =>
    cases powered
    cases poweredToo
    exact ⟨⟨rfl, rfl, rfl, rfl, rfl, rfl, rfl, rfl, rfl, rfl, rfl, rfl, rfl, rfl, same⟩, twins⟩

/-- The sessions stay twins in every operation, if a start reads the same ranking. -/
theorem perform (blind : StoreBlind alike) (twins : TwinSessions alike left right)
    (operation : Operation)
    (answer : operation = .start → left.device.storedRanking = right.device.storedRanking) :
    TwinSessions alike (left.perform operation).2 (right.perform operation).2 ∧
      Fault.forgiven (left.perform operation).1 = Fault.forgiven (right.perform operation).1 := by
  have controlled {program : ControlM ε₁ Unit} {other : ControlM ε₂ Unit}
      (resembles : Resembles alike (program left.device) (other right.device)) :
      TwinSessions alike (left.control program).2 (right.control other).2 ∧
        Fault.forgiven (left.control program).1 = Fault.forgiven (right.control other).1 := by
    obtain ⟨forgiven, devices⟩ := resembles
    rw [Session.control_eq, Session.control_eq]
    exact ⟨⟨devices, twins.scheduler⟩, forgiven⟩
  have devices := twins.device
  cases operation with
  | start => exact controlled (start_resembles blind devices (answer rfl))
  | startSequence => exact controlled (startSequence_matches blind devices).resembles
  | setMode mode target => exact controlled (setMode_matches blind devices mode target).resembles
  | event event => exact controlled (onEvent_resembles blind devices event)
  | request request => exact controlled (onRequest_matches blind devices request).resembles
  | tick => exact controlled (tick_resembles blind devices)
  | scanTimeout => exact ⟨⟨devices.onScanTimer blind, twins.scheduler⟩, rfl⟩
  | timerTick =>
    have ticked := congrArg TimerPool.tick devices.timers
    exact ⟨⟨{ devices with timers := ticked }, twins.scheduler⟩, rfl⟩
  | timerStep => exact ⟨twins.timerStep, rfl⟩

end TwinSessions

end Sessions

/-! ## Two platforms with one radio -/

section Platforms

open Simulation

variable {ρ σ₁ σ₂ : Type}

/-- The radio is the same, and the journals list the same requests to it with the same results. -/
structure SameRadio (left : Journaled (ρ × σ₁)) (right : Journaled (ρ × σ₂)) : Prop where
  radio : left.env.1 = right.env.1
  calls : left.calls.filter (·.request?.isSome) = right.calls.filter (·.request?.isSome)

variable {left after : Journaled (ρ × σ₁)} {right other : Journaled (ρ × σ₂)}

/-- A call to a store does not show. -/
theorem SameRadio.unseen (same : SameRadio left right) (call : Call)
    (radio : after.env.1 = left.env.1) (calls : after.calls = left.calls ++ [call])
    (store : call.request? = none) : SameRadio after right where
  radio := radio.trans same.radio
  calls := by
    rw [calls, List.filter_append, same.calls]
    simp [store]

theorem SameRadio.symm (same : SameRadio left right) : SameRadio right left :=
  ⟨same.radio.symm, same.calls.symm⟩

variable [RadioStack ρ] [RecordStore σ₁] [RecordStore σ₂]

omit [RadioStack ρ] [RecordStore σ₂] in
theorem SameRadio.stores (same : SameRadio left right) (stores : Stores left after) :
    SameRadio after right := by
  cases stores with
  | read key room => exact same.unseen (.read key _) rfl rfl rfl
  | write key bytes => exact same.unseen (.write key bytes _) rfl rfl rfl
  | reclaim => exact same.unseen (.reclaim _) rfl rfl rfl

theorem SameRadio.blind :
    StoreBlind (SameRadio : Journaled (ρ × σ₁) → Journaled (ρ × σ₂) → Prop) where
  answers {left right} same request := by
    show (RadioStack.request request left.env.1).1 = (RadioStack.request request right.env.1).1
    rw [same.radio]
  asked {left right} same request := by
    refine ⟨?_, ?_⟩
    · show (RadioStack.request request left.env.1).2 = (RadioStack.request request right.env.1).2
      rw [same.radio]
    · show (left.calls ++ [Call.radio request (RadioStack.request request left.env.1).1]).filter _ =
        (right.calls ++ [Call.radio request (RadioStack.request request right.env.1).1]).filter _
      rw [List.filter_append, List.filter_append, same.calls, same.radio]
  registry {left right} same := by
    show RadioStack.nextPeer left.env.1 = RadioStack.nextPeer right.env.1
    rw [same.radio]
  left same stores := same.stores stores
  right same stores := (same.symm.stores stores).symm

/-- Two runs side by side, of a session on one store and of a session on another: the same
operations, also after one has failed.  In between the radio changes on its own, the same on both
sides, and each store as it likes. -/
inductive TwinRun (started : Session (Journaled (ρ × σ₁))) (other : Session (Journaled (ρ × σ₂))) :
    Session (Journaled (ρ × σ₁)) → Session (Journaled (ρ × σ₂)) → Prop
  | start : TwinRun started other started other
  | operation {left : Session (Journaled (ρ × σ₁))} {right : Session (Journaled (ρ × σ₂))}
      (run : TwinRun started other left right) (operation : Operation)
      (answer : operation = .start → left.device.storedRanking = right.device.storedRanking) :
      TwinRun started other (left.perform operation).2 (right.perform operation).2
  | outside {left : Session (Journaled (ρ × σ₁))} {right : Session (Journaled (ρ × σ₂))}
      (run : TwinRun started other left right) (radio : ρ) (store₁ : σ₁) (store₂ : σ₂) :
      TwinRun started other
        (left.moved (.outside { left.device.env with env := (radio, store₁) })).2
        (right.moved (.outside { right.device.env with env := (radio, store₂) })).2

theorem TwinRun.twins {started left : Session (Journaled (ρ × σ₁))}
    {other right : Session (Journaled (ρ × σ₂))} (run : TwinRun started other left right)
    (begins : TwinSessions SameRadio started other) : TwinSessions SameRadio left right := by
  induction run with
  | start => exact begins
  | operation run operation answer ih => exact (ih.perform SameRadio.blind operation answer).1
  | outside run radio store₁ store₂ ih =>
    exact ⟨{ ih.device with env := ⟨rfl, ih.device.env.calls⟩ }, ih.scheduler⟩

/-- Two runs whose stores answer the reads of the ranking alike are the same but for the state of
the save: the same requests to the radio, the same controller and the same timers.  What they return
differs at most by faults of the stores. -/
theorem store_trouble_stays_apart {ranking : Ranking} {env : Journaled (ρ × σ₁)}
    {env' : Journaled (ρ × σ₂)} {reserved : Nat} {started left : Session (Journaled (ρ × σ₁))}
    {other right : Session (Journaled (ρ × σ₂))}
    (powered : Session.powerUp ranking env reserved = .ok started)
    (poweredToo : Session.powerUp ranking env' reserved = .ok other) (same : SameRadio env env')
    (run : TwinRun started other left right) :
    Twins SameRadio left.device right.device ∧
    left.scheduler.lastTick = right.scheduler.lastTick ∧
    ∀ operation,
      (operation = .start → left.device.storedRanking = right.device.storedRanking) →
      Fault.forgiven (left.perform operation).1 = Fault.forgiven (right.perform operation).1 := by
  have begins := TwinSessions.powerUp SameRadio.blind powered poweredToo same
  have twins := run.twins begins
  exact ⟨twins.device, twins.scheduler.lastTick,
    fun operation answer => (twins.perform SameRadio.blind operation answer).2⟩

section Bench

/-- A radio without bonds beside a record store. -/
def besideStore (store : Platform) : Session (Journaled (Platform × Platform)) :=
  .fresh .empty (.new (.new [] .empty, store))

/-- A store that refuses to write. -/
def brokenStore : Platform :=
  { Platform.new [] .empty with failures := { write := some .io } }

/-- A central bonds.  One of the two devices cannot save the ranking and says so; neither shows in
what it does. -/
theorem store_trouble_at_bonding :
    let bonding : Operation := .event (.bonded nearPeer)
    ∃ left right, TwinRun (besideStore (.new [] .empty)) (besideStore brokenStore) left right ∧
      (left.perform bonding).1 = .ok () ∧ (right.perform bonding).1 = .error (.storage .io) ∧
      Twins SameRadio (left.perform bonding).2.device (right.perform bonding).2.device := by
  have powered (store : Platform) :
      Session.powerUp .empty (.new (.new [] .empty, store)) 0 = .ok (besideStore store) :=
    Session.powerUp_fresh _ _
  have begun : TwinRun (besideStore (.new [] .empty)) (besideStore brokenStore) _ _ :=
    .operation .start .start fun _ => rfl
  have linked := begun.operation (.event (.connected none ⟨7⟩)) nofun
  have bonded := linked.operation (.event (.bonded nearPeer)) nofun
  have apart :=
    store_trouble_stays_apart (powered (.new [] .empty)) (powered brokenStore) ⟨rfl, rfl⟩ bonded
  exact ⟨_, _, linked, by decide +kernel, by decide +kernel, apart.1⟩

end Bench

end Platforms

end BondedMouse
