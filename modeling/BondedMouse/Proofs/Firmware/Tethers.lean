import BondedMouse.Proofs.Controller.Saving
import BondedMouse.Proofs.Firmware.Interleaving

/-! # Links that only reports change

Whether the controller has a link is changed by the reports of the advertiser and by
nothing else: all that an operation can do to a link is to ask for its end, and then the
controller waits for that to be reported.  Nor does an operation touch the reports that
wait.  `Tethered` says both of the device that an operation leaves behind, also where the
stack refuses something halfway.
-/

namespace BondedMouse

open Controller Firmware

/-- The device has no link if and only if that was so, and these reports wait. -/
structure Tethered (down : Prop) (reports : List RadioEvent) (device : Device Platform) : Prop where
  link : device.link = .down ↔ down
  reports : device.env.1.reports = reports

namespace Tethered

variable {down : Prop} {reports : List RadioEvent} {device other described : Device Platform}

theorem same (tethered : Tethered down reports device) (link : other.link = device.link)
    (unit : other.env.1 = device.env.1) : Tethered down reports other :=
  ⟨link ▸ tethered.link, unit ▸ tethered.reports⟩

/-! ## Link and advertising -/

theorem asked (tethered : Tethered down reports device) (request : RadioRequest) :
    Tethered down reports (final (ask request device)) := by
  have silent : (RadioStack.request request device.env).2.1.reports = device.env.1.reports :=
    device.env.1.reports_request request
  unfold ask
  dsimp only
  split <;> exact ⟨tethered.link, silent.trans tethered.reports⟩

theorem dropped (tethered : Tethered down reports device) :
    Tethered down reports (final (dropLink device)) := by
  rw [dropLink_apply]
  split
  · next handle up =>
    have closing : Tethered down reports { device with link := .closing handle } :=
      ⟨by simpa [up] using tethered.link, tethered.reports⟩
    exact closing.asked _
  · exact tethered
  · exact tethered

theorem started (tethered : Tethered down reports device) :
    Tethered down reports (final (startRadio device)) := by
  have running : Tethered down reports { device with running := true } := tethered.same rfl rfl
  exact running.asked (.start device.profile device.window)

theorem ended (tethered : Tethered down reports device) :
    Tethered down reports (final (stopRadio device)) := by
  have stopped : Tethered down reports device.stopped := tethered.same rfl rfl
  exact stopped.asked .stop

theorem silenced (tethered : Tethered down reports device) :
    Tethered down reports (final (silence device)) := by
  have unwanted : Tethered down reports { device with wanted := false } := tethered.same rfl rfl
  rw [silence_apply]
  split
  · exact unwanted.ended
  · exact unwanted

theorem advertised (tethered : Tethered down reports device) :
    Tethered down reports (final (advertise device)) := by
  have wanting : Tethered down reports { device with wanted := true } := tethered.same rfl rfl
  rw [advertise_apply]
  split
  · exact wanting.dropped
  · exact wanting
  · split
    · exact wanting
    · exact wanting.started

theorem listed (tethered : Tethered down reports device) :
    Tethered down reports (final (sendWhitelist device)) :=
  final_bind _ (tethered.asked (.whitelist device.whitelist)) fun _ tethered => tethered.asked _

/-! ## Windows -/

theorem inForce (tethered : Tethered down reports device) :
    Tethered down reports (final (putInForce device)) :=
  final_bind _ tethered.silenced fun _ silenced =>
    final_bind _ silenced.listed fun _ listed => listed.advertised

theorem opened (tethered : Tethered down reports device) (describes : Describes device described) :
    Tethered down reports (final (Controller.putInForce described)) :=
  inForce (tethered.same describes.link (congrArg Prod.fst describes.env))

theorem acted (tethered : Tethered down reports device) (action : Action) :
    Tethered down reports (final (act action device)) := by
  cases action with
  | ignore | noteDetection => exact tethered
  | dropLink => exact tethered.dropped
  | endWindow | keepLink => exact tethered.silenced
  | turnToTargets =>
    rw [act, turnToTargets_apply]
    exact tethered.opened (.targets device)
  | turnToNext =>
    rw [act, turnToNext_apply]
    exact tethered.opened (.next device)

theorem closedScan (tethered : Tethered down reports device) :
    Tethered down reports (final (closeScanWindow device)) :=
  final_bind _ tethered.silenced fun _ silenced => silenced.acted _

theorem noted (tethered : Tethered down reports device) (peer : PeerId) :
    Tethered down reports (final (noteAndClose peer device)) := by
  have noted : Tethered down reports (device.noted peer) := tethered.same rfl rfl
  rw [noteAndClose, bind_apply, noteDetection_apply]
  simp only [bind_apply, get_apply]
  split
  · exact noted.closedScan
  · exact noted

theorem detected (tethered : Tethered down reports device) (peer : PeerId) :
    Tethered down reports (final (onDetected peer device)) := by
  have struck : Tethered down reports (device.struck peer) := tethered.same rfl rfl
  have row : Tethered down reports (final ((sendWhitelist >>= fun _ => dropLink >>= fun _ =>
      noteAndClose peer) (device.struck peer))) :=
    final_bind _ struck.listed fun _ listed => final_bind _ listed.dropped fun _ dropped =>
      dropped.noted peer
  exact row

theorem responded (tethered : Tethered down reports device) (event : WindowEvent) :
    Tethered down reports (final (respond event device)) := by
  rw [respond_apply]
  split
  · exact tethered.detected _
  · exact tethered.acted _

/-! ## Operations -/

theorem saved (tethered : Tethered down reports device) :
    Tethered down reports (final (saveRanking device)) := by
  have saves := saveRanking_saves device
  generalize saveRanking device = result at saves
  cases saves with
  | spared => exact tethered
  | done | failed => exact tethered.same rfl rfl

theorem connected {peer : Option PeerId} {handle : LinkHandle}
    (tethered : Tethered down reports (device.received (.connected peer handle))) :
    Tethered down reports (final (onConnected peer handle device)) := by
  rw [Device.received] at tethered
  rw [onConnected_apply]
  split at tethered
  · next free =>
    rw [if_pos free]
    exact tethered.responded _
  · next linked =>
    rw [if_neg linked]
    exact tethered

theorem disconnected (tethered : Tethered down reports (device.received .disconnected)) :
    Tethered down reports (final (onDisconnected device)) := by
  rw [Device.received] at tethered
  rw [onDisconnected_apply]
  cases link : device.link with
  | down =>
    rw [if_pos link] at tethered
    exact tethered
  | closing handle =>
    rw [if_neg (by simp [link])] at tethered
    exact tethered
  | up handle =>
    rw [if_neg (by simp [link])] at tethered
    dsimp only
    split
    · exact tethered.opened (.pairing _)
    · exact tethered.opened (.sequence _)

theorem secured (tethered : Tethered down reports device) (peer : PeerId) :
    Tethered down reports (final (onBonded peer device)) := by
  rw [onBonded_apply]
  split
  · dsimp only
    split
    · exact saved (tethered.same rfl rfl)
    · exact tethered.same rfl rfl
  · exact tethered
  · exact tethered

theorem timedOut {window : Window}
    (tethered : Tethered down reports (device.received (.timedOut window))) :
    Tethered down reports (final (onTimedOut window device)) := by
  rw [Device.received] at tethered
  rw [onTimedOut_apply]
  split at tethered
  · next present =>
    rw [if_pos present]
    split
    · exact tethered.responded _
    · exact tethered.responded _
    · have resting : Tethered down reports device.stopped.forRest := tethered.same rfl rfl
      exact resting.silenced
    · exact tethered
    · exact tethered
  · next stale =>
    rw [if_neg stale]
    exact tethered

/-- Once the link is up to date with an event, the rest of handling it leaves the link there. -/
theorem event {event : RadioEvent} (tethered : Tethered down reports (device.received event)) :
    Tethered down reports (final (onEvent event device)) := by
  cases event with
  | connected peer handle => exact tethered.connected
  | disconnected => exact tethered.disconnected
  | bonded peer => exact secured tethered peer
  | timedOut window => exact tethered.timedOut
  | storageFull =>
    rw [onEvent, final_onStorageFull]
    exact tethered.same rfl rfl
  | bondsErased =>
    rw [onEvent, startSequence_apply]
    exact tethered.opened (.sequence device)

theorem request (tethered : Tethered down reports device) (request : Request) :
    Tethered down reports (final (onRequest request device)) := by
  cases request with
  | moveCursor movement =>
    rw [onRequest_moveCursor]
    split
    · exact tethered.asked _
    · exact tethered
    · exact tethered
  | pairingWindow => exact tethered.opened (.pairing device)
  | eraseBonds => exact tethered.same rfl rfl
  | disconnect => exact tethered.dropped

theorem reconciled (tethered : Tethered down reports device) :
    Tethered down reports (final (reconcile device)) := by
  rw [reconcile_apply]
  split
  · split
    · exact tethered.started
    · exact tethered.ended
  · exact tethered

theorem erased (tethered : Tethered down reports device) :
    Tethered down reports (final (eraseWhenDown device)) := by
  rw [eraseWhenDown_apply]
  split
  · have pending : Tethered down reports { device with erasePending := false } :=
      tethered.same rfl rfl
    have asked := pending.asked .forgetBonds
    split
    · next answered =>
      rw [answered] at asked
      exact asked.same rfl rfl
    · next refused => rwa [refused] at asked
  · exact tethered

theorem ticked (tethered : Tethered down reports device) :
    Tethered down reports (final (tick device)) := by
  cases recorded : device.fault with
  | some fault =>
    rw [tick_fault recorded]
    exact tethered.same rfl rfl
  | none =>
    rw [tick_apply recorded]
    exact final_bind _ tethered.reconciled fun _ reconciled =>
      final_bind _ reconciled.erased fun _ erased => erased.saved

theorem begun (tethered : Tethered down reports device) :
    Tethered down reports (final (start device)) := by
  have restored : Tethered down reports device.restored.pruned :=
    tethered.same rfl (congrArg Prod.fst device.env_restored)
  rw [start_apply]
  exact final_bind _ (restored.opened (.sequence _)) fun _ opened => opened.saved

theorem modeSet (tethered : Tethered down reports device) (mode : Mode) (target : Option PeerId) :
    Tethered down reports (final (setMode mode target device)) := by
  by_cases idle : mode = .idle
  · subst idle
    have resting : Tethered down reports device.forRest := tethered.same rfl rfl
    exact resting.silenced
  · obtain ⟨described, describes, opens⟩ := setMode_opens target device idle
    rw [opens]
    exact tethered.opened describes

theorem rung (tethered : Tethered down reports device) :
    Tethered down reports (onScanTimer device) := by
  have closed := tethered.closedScan
  have run : closeScanWindow.run device = closeScanWindow device := rfl
  unfold onScanTimer
  rw [run]
  split
  · split
    · next ok => rwa [ok] at closed
    · next fault after failed =>
      rw [failed] at closed
      exact closed.same rfl rfl
  · exact tethered

/-- A step of the scheduler rings the scan timer or changes the timers only. -/
theorem stepped {session : Session Platform} (tethered : Tethered down reports session.device)
    (wired : session.Wired) : Tethered down reports session.timerStep.device := by
  obtain ⟨owner, serving, idles⟩ := wired
  have ran {device : Device Platform} (place : Fin TimerPool.size)
      (tethered : Tethered down reports device) :
      Tethered down reports (session.scheduler.runSlot device place) := by
    by_cases own : place = owner
    · subst own
      unfold Scheduler.runSlot
      rw [serving]
      dsimp only
      split
      · exact rung (tethered.same rfl rfl)
      · exact tethered
    · obtain ⟨timers, same⟩ := Scheduler.runSlot_idle (idles place · own) device
      rw [same]
      exact tethered.same rfl rfl
  simp only [Session.timerStep, Scheduler.step]
  split
  · exact tethered
  · exact List.foldlRecOn _ _ tethered fun _ tethered place _ => ran place tethered

/-- Whatever a session does but for handling a report, and however it ends. -/
theorem moved {session : Session Platform} (tethered : Tethered down reports session.device)
    (wired : session.Wired) {operation : Operation} (own : operation.isReport = false) :
    Tethered down reports (session.moved (.operation operation)).2.device := by
  cases operation with
  | timerTick => exact tethered.same rfl rfl
  | timerStep => exact tethered.stepped wired
  | scanTimeout => exact tethered.rung
  | start =>
    rw [Session.moved, Session.perform, Session.control_device]
    exact tethered.begun
  | startSequence =>
    rw [Session.moved, Session.perform, Session.control_device, startSequence_apply]
    exact tethered.opened (.sequence _)
  | setMode mode target =>
    rw [Session.moved, Session.perform, Session.control_device]
    exact tethered.modeSet mode target
  | request request =>
    rw [Session.moved, Session.perform, Session.control_device]
    exact tethered.request request
  | tick =>
    rw [Session.moved, Session.perform, Session.control_device]
    exact tethered.ticked
  | event event =>
    rw [Session.moved, Session.perform, Session.control_device]
    cases event with
    | bonded | storageFull | bondsErased => exact Tethered.event tethered
    | connected | disconnected | timedOut => cases own

end Tethered

end BondedMouse
