import BondedMouse.Proofs.Bounds.Records
import BondedMouse.Proofs.Bounds.Tables
import BondedMouse.Proofs.Controller.Events

/-! # The guarded controller

The operations of the controller once more, with every access to the ranking, to the
directed sequence and to the whitelist guarded, and every step of a counter.  A guard that
fails halts the operation; that is no fault, and nothing recovers from it.

An operation agrees with its guarded form on a device if the two do the same there, so
that no guard fails on the way.  On a device within its bounds they all agree.
-/

namespace BondedMouse

/-- What ends a guarded operation early. -/
inductive Stop
  /-- A guard has failed. -/
  | halted
  | fault (fault : Fault)

/-- Operations with guards. -/
abbrev GuardedM (ε : Type) := EStateM Stop (Device ε)

namespace GuardedM

variable {ε α : Type}

/-- An operation with nothing to guard. -/
def plain (operation : ControlM ε α) : GuardedM ε α := fun device =>
  match operation device with
  | .ok value next => .ok value next
  | .error fault next => .error (.fault fault) next

/-- Goes on with the value of an access. -/
def within : Option α → GuardedM ε α
  | some value => pure value
  | none => throw .halted

end GuardedM

open GuardedM

/-! ## The operations -/

namespace Guarded

open Controller (countWindow whitelistRegistry silence advertise dropLink scanTime actionFor
  allDetected rest reconcile eraseWhenDown ask onStorageFull)

variable {ε : Type}

section Radio

variable [RadioStack ε]

def sendWhitelist : GuardedM ε Unit := do
  let allowed ← within (collect (← get).whitelist Registry.whitelistMax)
  plain (ask (.whitelist allowed))
  let allowed ← within (collect (← get).whitelist Registry.whitelistMax)
  plain (ask (.identities allowed))

def enter (mode : Mode) : GuardedM ε Unit := do
  modify fun device => { device with mode }
  plain silence
  sendWhitelist
  plain advertise

def openPairing : GuardedM ε Unit := do
  plain countWindow
  modify fun device => { device with whitelist := [], profile := .pairing }
  enter .pairing

def openScan : GuardedM ε Unit := do
  plain countWindow
  plain whitelistRegistry
  if (← get).whitelist.isEmpty then
    openPairing
  else
    modify fun device => { device with
      sequence := device.sequence.restart
      timers := device.timers.arm device.scanTimer scanTime
      profile := .scan }
    enter .scan

def openDirected (peer : PeerId) : GuardedM ε Unit := do
  plain countWindow
  modify fun device => { device with whitelist := [peer], profile := .directed }
  enter .directed

def openAnyBonded : GuardedM ε Unit := do
  plain countWindow
  plain whitelistRegistry
  if (← get).whitelist.isEmpty then
    openPairing
  else
    modify fun device => { device with profile := .scan }
    enter .anyBonded

def setMode (mode : Mode) (target : Option PeerId) : GuardedM ε Unit :=
  match mode with
  | .idle => plain rest
  | .pairing => openPairing
  | .scan => openScan
  | .directed =>
    match target with
    | some peer => openDirected peer
    | none => do
      plain countWindow
      openScan
  | .anyBonded => openAnyBonded

def startSequence : GuardedM ε Unit := do
  modify fun device => { device with sequence := .fresh }
  openScan

def turnToTargets : GuardedM ε Unit := do
  let (first, sequence) ← within (← get).sequence.guardedCloseScan
  modify fun device => { device with sequence }
  match first with
  | some peer => openDirected peer
  | none => openScan

def turnToNext : GuardedM ε Unit := do
  let (turn, sequence) ← within (← get).sequence.guardedTurn
  modify fun device => { device with sequence }
  match turn with
  | .next peer => openDirected peer
  | .scanAgain => openScan
  | .giveUp => openAnyBonded

def act : Action → GuardedM ε Unit
  | .ignore | .noteDetection => pure ()
  | .dropLink => plain dropLink
  | .endWindow | .keepLink => plain silence
  | .turnToTargets => turnToTargets
  | .turnToNext => turnToNext

def closeScanWindow : GuardedM ε Unit := do
  plain silence
  act (actionFor (← get) .windowEnded)

def noteDetection (peer : PeerId) : GuardedM ε Unit := do
  let device ← get
  match device.ranking.rankOf? peer with
  | some rank =>
    let (_, sequence) ← within (device.sequence.guardedNote rank peer)
    set { device with sequence }
  | none => pure ()

def strike (peer : PeerId) : GuardedM ε Unit := do
  let whitelist ← within (guardedStrike (← get).whitelist peer)
  modify fun device => { device with whitelist }

def noteAndClose (peer : PeerId) : GuardedM ε Unit := do
  noteDetection peer
  if allDetected (← get) then closeScanWindow

def onDetected (peer : PeerId) : GuardedM ε Unit := do
  strike peer
  sendWhitelist
  plain dropLink
  noteAndClose peer

def respond (event : WindowEvent) : GuardedM ε Unit := do
  match actionFor (← get) event.kind, event with
  | .noteDetection, .peerConnecting peer => onDetected peer
  | action, _ => act action

/-- The end of the scan timer, which has no caller to report a fault to. -/
def onScanTimer (device : Device ε) : Option (Device ε) :=
  if device.mode = .scan ∧ device.sequence.phase = .scanning then
    match closeScanWindow.run device with
    | .ok () device => some device
    | .error (.fault fault) device => some { device with fault := some fault }
    | .error .halted _ => none
  else
    some device

def onConnected (peer : Option PeerId) (handle : LinkHandle) : GuardedM ε Unit := do
  let device ← get
  if device.link = .down then
    set { device with link := .up handle, running := false, bondedLink := peer.isSome }
    match peer with
    | some peer =>
      respond (if device.mode = .pairing then .peerIntruding else .peerConnecting peer)
    | none => respond .strangerConnecting

def onDisconnected : GuardedM ε Unit := do
  let device ← get
  let freed := { device with link := .down, running := false, bondedLink := false }
  match device.link with
  | .down => pure ()
  | .closing _ => set freed
  | .up _ =>
    set freed
    if !device.bondedLink && device.mode = .pairing then openPairing else startSequence

def onTimedOut (window : Window) : GuardedM ε Unit := do
  let device ← get
  if window = device.window then
    set { device with running := false }
    match device.mode with
    | .directed | .anyBonded => respond .windowEnded
    | .pairing => plain rest
    | .scan | .idle => pure ()

def onRequest : Request → GuardedM ε Unit
  | .pairingWindow => openPairing
  | request => plain (Controller.onRequest request)

end Radio

section Store

variable [RecordStore ε]

def saveRanking : GuardedM ε Unit := do
  let device ← get
  if device.unsaved then
    let tries ← within (bump device.saveTries)
    let (result, env) ← within (device.ranking.guardedPersist device.env)
    match result with
    | .ok () => set { device with env, unsaved := false, saveTries := 0 }
    | .error error =>
      if error = .busy ∧ tries < storageTries then
        set { device with env, saveTries := tries }
      else
        set { device with env, unsaved := false, saveTries := 0 }
        throw (.fault (.storage error))

def onBonded (peer : PeerId) : GuardedM ε Unit := do
  let device ← get
  match device.link with
  | .up _ =>
    let (insertion, ranking) ← within (device.ranking.guardedInsert peer)
    set { device with bondedLink := true, ranking }
    if insertion.changed then
      modify fun device => { device with unsaved := true }
      saveRanking
  | .down | .closing _ => pure ()

def restoreRanking : GuardedM ε Unit := do
  let device ← get
  let (_, ranking, env) ← within (device.ranking.guardedRestore device.env)
  set { device with ranking, env }

variable [RadioStack ε]

def pruneRanking : GuardedM ε Unit := do
  let device ← get
  let (dropped, ranking) ←
    within (device.ranking.guardedRetain (Registry.enumerates device.env))
  set { device with ranking, unsaved := device.unsaved || 0 < dropped }

def onEvent : RadioEvent → GuardedM ε Unit
  | .connected peer handle => onConnected peer handle
  | .disconnected => onDisconnected
  | .bonded peer => onBonded peer
  | .timedOut window => onTimedOut window
  | .storageFull => plain onStorageFull
  | .bondsErased => startSequence

def tick : GuardedM ε Unit := do
  let device ← get
  match device.fault with
  | some fault =>
    set { device with fault := none }
    throw (.fault fault)
  | none =>
    plain reconcile
    plain eraseWhenDown
    saveRanking

def start : GuardedM ε Unit := do
  restoreRanking
  pruneRanking
  startSequence
  saveRanking

end Store

end Guarded

/-! ## Agreement -/

section Agreement

variable {ε α β : Type} {device : Device ε}

/-- On this device no guard fails, and the guarded operation does what the operation does. -/
def Agrees (guarded : GuardedM ε α) (operation : ControlM ε α) (device : Device ε) : Prop :=
  guarded device = plain operation device

namespace Agrees

variable {guarded first : GuardedM ε α} {operation : ControlM ε α} {rest : α → GuardedM ε β}
  {continued : α → ControlM ε β}

theorem bind (agrees : Agrees first operation device)
    (continues : ∀ value next, operation device = .ok value next →
      Agrees (rest value) (continued value) next) :
    Agrees (first >>= rest) (operation >>= continued) device := by
  change EStateM.bind first rest device = plain (EStateM.bind operation continued) device
  have first_done : first device = _ := agrees
  unfold EStateM.bind plain
  rw [first_done, plain]
  dsimp only
  cases done : operation device with
  | ok value next => exact continues value next done
  | error fault next => rfl

theorem get {rest : Device ε → GuardedM ε β} {continued : Device ε → ControlM ε β}
    (agrees : Agrees (rest device) (continued device) device) :
    Agrees (get >>= rest) (get >>= continued) device := agrees

theorem set {rest : PUnit → GuardedM ε β} {continued : PUnit → ControlM ε β} {next : Device ε}
    (agrees : Agrees (rest ⟨⟩) (continued ⟨⟩) next) :
    Agrees (set next >>= rest) (set next >>= continued) device := agrees

section Changes

variable {change : Device ε → Device ε} {rest : PUnit → GuardedM ε β}
  {continued : PUnit → ControlM ε β}

theorem plain_modify (agrees : Agrees (rest ⟨⟩) (continued ⟨⟩) (change device)) :
    Agrees (plain (modify change) >>= rest) (modify change >>= continued) device := agrees

theorem modify (agrees : Agrees (rest ⟨⟩) (continued ⟨⟩) (change device)) :
    Agrees (modify change >>= rest) (modify change >>= continued) device := agrees

end Changes

/-- An access that has a value. -/
theorem within {value : α} {operation : ControlM ε β} {access : Option α}
    (has : access = some value) (agrees : Agrees (rest value) operation device) :
    Agrees (within access >>= rest) operation device := by
  subst has
  exact agrees

end Agrees

/-! ### Windows -/

namespace Guarded

variable [RadioStack ε]

/-- Where an operation ends whose requests are all answered. -/
theorem ended_of_asks {requests : List RadioRequest} {target next : Device ε}
    {result : EStateM.Result Fault (Device ε) Unit} (asks : Asks requests device target result)
    (done : result = .ok () next) : ∃ env, next = { target with env } := by
  cases asks with
  | answered answers =>
    cases done
    exact ⟨_, rfl⟩
  | refused refuses => cases done

theorem sendWhitelist_agrees (fits : device.whitelist.length ≤ Registry.whitelistMax) :
    Agrees sendWhitelist Controller.sendWhitelist device := by
  refine .get (.within (collect_eq fits) ?_)
  refine .bind rfl fun value next asked => .get ?_
  obtain ⟨env, rfl⟩ := ended_of_asks (Controller.ask_asks _ device) asked
  exact .within (collect_eq fits) rfl

/-- Puts a described window into force. -/
def putInForce : GuardedM ε Unit := do
  GuardedM.plain Controller.silence
  sendWhitelist
  GuardedM.plain Controller.advertise

theorem putInForce_agrees (fits : device.whitelist.length ≤ Registry.whitelistMax) :
    Agrees putInForce Controller.putInForce device := by
  refine .bind rfl fun value next silenced => .bind ?_ fun value next sent => rfl
  obtain ⟨env, rfl⟩ := ended_of_asks (Controller.silence_asks device) silenced
  exact sendWhitelist_agrees fits

omit [RadioStack ε] in
theorem length_walk_le (next : Option PeerId → Option PeerId) (limit : Nat)
    (cursor : Option PeerId) : (Registry.walk next limit cursor).length ≤ limit := by
  induction limit generalizing cursor with
  | zero => exact Nat.le_refl 0
  | succ limit ih =>
    unfold Registry.walk
    split
    · exact Nat.zero_le _
    · exact Nat.succ_le_succ (ih _)

theorem length_whitelist_le (env : ε) :
    (Registry.whitelist env).length ≤ Registry.whitelistMax :=
  length_walk_le _ _ _

theorem openPairing_agrees (device : Device ε) :
    Agrees openPairing Controller.openPairing device := by
  have fits : device.forPairing.whitelist.length ≤ Registry.whitelistMax := Nat.zero_le _
  exact putInForce_agrees fits

theorem openDirected_agrees (peer : PeerId) (device : Device ε) :
    Agrees (openDirected peer) (Controller.openDirected peer) device := by
  have fits : (device.forPeer peer).whitelist.length ≤ Registry.whitelistMax :=
    Nat.succ_le_succ (Nat.zero_le _)
  exact putInForce_agrees fits

theorem openScan_agrees (device : Device ε) : Agrees openScan Controller.openScan device := by
  refine .plain_modify (.plain_modify (.get ?_))
  split
  · exact openPairing_agrees _
  · exact putInForce_agrees (length_whitelist_le device.env)

theorem openAnyBonded_agrees (device : Device ε) :
    Agrees openAnyBonded Controller.openAnyBonded device := by
  refine .plain_modify (.plain_modify (.get ?_))
  split
  · exact openPairing_agrees _
  · exact putInForce_agrees (length_whitelist_le device.env)

theorem setMode_agrees (mode : Mode) (target : Option PeerId) (device : Device ε) :
    Agrees (setMode mode target) (Controller.setMode mode target) device := by
  cases mode with
  | idle => rfl
  | pairing => exact openPairing_agrees device
  | scan => exact openScan_agrees device
  | directed =>
    cases target with
    | some peer => exact openDirected_agrees peer device
    | none => exact .plain_modify (openScan_agrees _)
  | anyBonded => exact openAnyBonded_agrees device

theorem startSequence_agrees (device : Device ε) :
    Agrees startSequence Controller.startSequence device :=
  .modify (openScan_agrees _)

theorem turnToTargets_agrees (device : Device ε) :
    Agrees turnToTargets Controller.turnToTargets device := by
  refine .get ?_
  refine .within (Sequence.guardedCloseScan_eq _) ?_
  generalize device.sequence.closeScan = closed
  obtain ⟨first, sequence⟩ := closed
  refine .modify ?_
  cases first with
  | some peer => exact openDirected_agrees peer _
  | none => exact openScan_agrees _

/-! ### The directed sequence -/

/-- A window may be turned past: the counters have room for a step, and the count stands for places
that there are. -/
structure MayTurn (sequence : Sequence) : Prop where
  index : sequence.index < 255
  count : sequence.count ≤ Sequence.capacity
  passes : sequence.passes < 255

theorem turnToNext_agrees (may : MayTurn device.sequence) :
    Agrees turnToNext Controller.turnToNext device := by
  refine .get (.within (Sequence.guardedTurn_eq may.index may.count may.passes) ?_)
  generalize device.sequence.turn = turned
  obtain ⟨turn, sequence⟩ := turned
  refine .modify ?_
  cases turn with
  | next peer => exact openDirected_agrees peer _
  | scanAgain => exact openScan_agrees _
  | giveUp => exact openAnyBonded_agrees _

theorem act_agrees (may : MayTurn device.sequence) (action : Action) :
    Agrees (act action) (Controller.act action) device := by
  cases action with
  | turnToTargets => exact turnToTargets_agrees device
  | turnToNext => exact turnToNext_agrees may
  | ignore | noteDetection | dropLink | endWindow | keepLink => rfl

theorem closeScanWindow_agrees (may : MayTurn device.sequence) :
    Agrees closeScanWindow Controller.closeScanWindow device := by
  refine .bind rfl fun value next silenced => .get ?_
  obtain ⟨env, rfl⟩ := ended_of_asks (Controller.silence_asks device) silenced
  have still : MayTurn ({ device.silenced with env } : Device ε).sequence := may
  exact act_agrees still _

omit [RadioStack ε] in
theorem noteDetection_agrees (room : device.sequence.count < 255) (peer : PeerId) :
    Agrees (noteDetection peer) (Controller.noteDetection peer) device := by
  rw [Agrees, plain, Controller.noteDetection_apply, Device.noted]
  change (match device.ranking.rankOf? peer with
    | some _ => _
    | none => _ : GuardedM ε Unit) device = _
  cases device.ranking.rankOf? peer with
  | none => rfl
  | some rank =>
    dsimp only
    rw [Sequence.guardedNote_eq room]
    rfl

end Guarded

/-! ### Devices within their bounds -/

/-- The counters and the whitelist of a device between two operations. -/
structure InBounds (device : Device ε) : Prop where
  index : device.sequence.index ≤ device.sequence.count
  count : device.sequence.count ≤ Ranking.capacity
  passes : device.sequence.passes ≤ Sequence.maxPasses
  saveTries : device.saveTries < storageTries
  whitelist : device.whitelist.length ≤ Registry.whitelistMax

namespace InBounds

theorem mayTurn (bounds : InBounds device) : Guarded.MayTurn device.sequence := by
  obtain ⟨index, count, passes, -, -⟩ := bounds
  unfold Sequence.maxPasses at passes
  unfold Ranking.capacity at count
  refine ⟨by omega, ?_, by omega⟩
  unfold Sequence.capacity
  omega

theorem count_note_le (sequence : Sequence) (rank : Nat) (peer : PeerId) :
    (sequence.note rank peer).2.count ≤ sequence.count + 1 := by
  unfold Sequence.note
  split
  · split
    · exact Nat.le_succ _
    · exact Nat.le_refl _
  · exact Nat.le_succ _

theorem count_noted_le (device : Device ε) (peer : PeerId) :
    (device.noted peer).sequence.count ≤ device.sequence.count + 1 := by
  unfold Device.noted
  dsimp only
  split
  · exact count_note_le _ _ _
  · exact Nat.le_succ _

/-- There are more places than a count within bounds and one more detection take. -/
theorem mayTurn_noted (bounds : InBounds device) (peer : PeerId) :
    Guarded.MayTurn (device.noted peer).sequence := by
  have one_more := count_noted_le device peer
  obtain ⟨detected, count, same⟩ := device.sequence_noted peer
  have may := bounds.mayTurn
  have few := bounds.count
  refine ⟨by rw [same]; exact may.index, ?_, by rw [same]; exact may.passes⟩
  unfold Ranking.capacity at few
  unfold Sequence.capacity
  omega

end InBounds

namespace Guarded

theorem strike_agrees (peer : PeerId) (device : Device ε) :
    Agrees (strike peer) (modify fun device => device.struck peer) device := by
  change (within (guardedStrike device.whitelist peer) >>= _) device = _
  rw [guardedStrike_eq]
  rfl

variable [RadioStack ε]

theorem noteAndClose_agrees (bounds : InBounds device) (peer : PeerId) :
    Agrees (noteAndClose peer) (Controller.noteAndClose peer) device := by
  have room : device.sequence.count < 255 := by
    have count := bounds.mayTurn.count
    unfold Sequence.capacity at count
    omega
  refine .bind (noteDetection_agrees room peer) fun _ next noted => .get ?_
  rw [Controller.noteDetection_apply] at noted
  cases noted
  split
  · exact closeScanWindow_agrees (bounds.mayTurn_noted peer)
  · rfl

theorem onDetected_agrees (bounds : InBounds device) (peer : PeerId) :
    Agrees (onDetected peer) (Controller.onDetected peer) device := by
  have fits : (device.struck peer).whitelist.length ≤ Registry.whitelistMax :=
    Nat.le_trans List.length_erase_le bounds.whitelist
  refine .bind (strike_agrees peer device) fun _ next struck => ?_
  cases struck
  refine .bind (sendWhitelist_agrees fits) fun _ next sent => .bind rfl fun _ last dropped => ?_
  obtain ⟨env, rfl⟩ := ended_of_asks (Controller.sendWhitelist_asks (device.struck peer)) sent
  obtain ⟨later, rfl⟩ := ended_of_asks (Controller.dropLink_asks _) dropped
  have onTheWay : InBounds ({ device.struck peer with link := device.link.dropped, env := later } :
      Device ε) := ⟨bounds.index, bounds.count, bounds.passes, bounds.saveTries, fits⟩
  exact noteAndClose_agrees onTheWay peer

theorem respond_agrees (bounds : InBounds device) (event : WindowEvent) :
    Agrees (respond event) (Controller.respond event) device := by
  refine .get ?_
  generalize Controller.actionFor device event.kind = action
  cases action with
  | noteDetection =>
    cases event with
    | peerConnecting peer => exact onDetected_agrees bounds peer
    | windowEnded | peerIntruding | strangerConnecting => rfl
  | ignore | dropLink | endWindow | turnToTargets | keepLink | turnToNext =>
    cases event <;> exact act_agrees bounds.mayTurn _

theorem onConnected_agrees (bounds : InBounds device) (peer : Option PeerId) (handle : LinkHandle) :
    Agrees (onConnected peer handle) (Controller.onConnected peer handle) device := by
  refine .get ?_
  split
  · have linked : InBounds (device.linked peer handle) := { bounds with }
    refine .set ?_
    cases peer with
    | some peer => exact respond_agrees linked _
    | none => exact respond_agrees linked _
  · rfl

theorem onDisconnected_agrees (device : Device ε) :
    Agrees onDisconnected Controller.onDisconnected device := by
  refine .get ?_
  cases device.link with
  | down => rfl
  | closing handle => rfl
  | up handle =>
    refine .set ?_
    split
    · exact openPairing_agrees _
    · exact startSequence_agrees _

theorem onTimedOut_agrees (bounds : InBounds device) (window : Window) :
    Agrees (onTimedOut window) (Controller.onTimedOut window) device := by
  refine .get ?_
  split
  · have stopped : InBounds device.stopped := { bounds with }
    refine .set ?_
    change Agrees _ _ device.stopped
    cases device.mode with
    | directed | anyBonded => exact respond_agrees stopped _
    | pairing | scan | idle => rfl
  · rfl

theorem onRequest_agrees (request : Request) (device : Device ε) :
    Agrees (onRequest request) (Controller.onRequest request) device := by
  cases request with
  | pairingWindow => exact openPairing_agrees device
  | moveCursor | eraseBonds | disconnect => rfl

/-- The guarded scan timer rings where the scan timer does. -/
theorem onScanTimer_eq (bounds : InBounds device) :
    onScanTimer device = some (Controller.onScanTimer device) := by
  unfold onScanTimer Controller.onScanTimer
  split
  · have agrees : closeScanWindow.run device = plain Controller.closeScanWindow device :=
      closeScanWindow_agrees bounds.mayTurn
    rw [agrees, plain, EStateM.run]
    cases Controller.closeScanWindow device <;> rfl
  · rfl

section Store

variable [RecordStore ε]

omit [RadioStack ε] in
theorem saveRanking_agrees (room : device.saveTries < 255) :
    Agrees saveRanking Controller.saveRanking device := by
  rw [Agrees, plain, Controller.saveRanking]
  change (if device.unsaved then _ else _ : GuardedM ε Unit) device = _
  rw [bump_eq room, Ranking.guardedPersist_eq]
  cases device.unsaved with
  | false => rfl
  | true =>
    generalize device.ranking.persist device.env = answer
    obtain ⟨result, env⟩ := answer
    cases result with
    | ok => rfl
    | error error =>
      change (if error = .busy ∧ device.saveTries + 1 < storageTries then _
        else _ : GuardedM ε Unit) device = _
      dsimp only
      by_cases again : error = .busy ∧ device.saveTries + 1 < storageTries
      · rw [if_pos again, if_pos again]
        rfl
      · rw [if_neg again, if_neg again]
        rfl

omit [RadioStack ε] in
theorem onBonded_agrees (bounds : InBounds device) (peer : PeerId) :
    Agrees (onBonded peer) (Controller.onBonded peer) device := by
  refine .get ?_
  cases device.link with
  | down => rfl
  | closing handle => rfl
  | up handle =>
    refine .within (Ranking.guardedInsert_eq _ _) ?_
    generalize device.ranking.insert peer = inserted
    obtain ⟨insertion, ranking⟩ := inserted
    refine .set ?_
    split
    · exact .modify (saveRanking_agrees (Nat.lt_trans bounds.saveTries (by decide)))
    · rfl

omit [RadioStack ε] in
theorem restoreRanking_agrees (device : Device ε) :
    Agrees restoreRanking Controller.restoreRanking device := by
  change (within (device.ranking.guardedRestore device.env) >>= _) device = _
  rw [Ranking.guardedRestore_eq]
  rfl

omit [RecordStore ε] in
theorem pruneRanking_agrees (device : Device ε) :
    Agrees pruneRanking Controller.pruneRanking device := by
  change (within (device.ranking.guardedRetain _) >>= _) device = _
  rw [Ranking.guardedRetain_eq]
  rfl

theorem onEvent_agrees (bounds : InBounds device) (event : RadioEvent) :
    Agrees (onEvent event) (Controller.onEvent event) device := by
  cases event with
  | connected peer handle => exact onConnected_agrees bounds peer handle
  | disconnected => exact onDisconnected_agrees device
  | bonded peer => exact onBonded_agrees bounds peer
  | timedOut window => exact onTimedOut_agrees bounds window
  | storageFull => rfl
  | bondsErased => exact startSequence_agrees device

theorem tick_agrees (bounds : InBounds device) : Agrees tick Controller.tick device := by
  have room : device.saveTries < 255 := Nat.lt_trans bounds.saveTries (by decide)
  refine .get ?_
  cases device.fault with
  | some fault => rfl
  | none =>
    refine .bind rfl fun _ next reconciled => .bind rfl fun _ last erased => saveRanking_agrees ?_
    obtain ⟨env, rfl⟩ := ended_of_asks (Controller.reconcile_asks device) reconciled
    have erases := Controller.eraseWhenDown_erases { device.reconciled with env }
    rw [erased] at erases
    cases erases with
    | spared keeps => exact room
    | erased pending down answers => exact room

theorem start_agrees (bounds : InBounds device) : Agrees start Controller.start device := by
  have room : device.restored.pruned.forSequence.saveTries < 255 := by
    have tries : device.restored.pruned.forSequence.saveTries = device.saveTries := by
      unfold Device.forSequence Device.forScan
      dsimp only
      split <;> rfl
    rw [tries]
    exact Nat.lt_trans bounds.saveTries (by decide)
  refine .bind (restoreRanking_agrees device) fun _ next restored => ?_
  cases restored
  refine .bind (pruneRanking_agrees _) fun _ next pruned => ?_
  cases pruned
  refine .bind (startSequence_agrees _) fun _ next begun => saveRanking_agrees ?_
  rw [Controller.startSequence_apply] at begun
  obtain ⟨env, rfl⟩ := ended_of_asks (Controller.putInForce_asks _) begun
  exact room

end Store

end Guarded

end Agreement

end BondedMouse
