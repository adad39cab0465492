import BondedMouse.Proofs.Controller.Windows

/-! # What each operation does

Every operation is reduced to changes of the device that cannot fail, rows of requests
and `putInForce`.  Where an operation is one path the result is an equation; where it
branches on more than a field or two, or on what the stack answers, the ways it can go
are an inductive relation, one constructor for each way with all that is known on it.
Whatever holds of the operations is proved from these and not from their programs.
-/

namespace BondedMouse

variable {ε : Type}

/-! ## Changes that cannot fail -/

namespace Device

def linked (device : Device ε) (peer : Option PeerId) (handle : LinkHandle) : Device ε :=
  { device with link := .up handle, running := false, bondedLink := peer.isSome }

def unlinked (device : Device ε) : Device ε :=
  { device with link := .down, running := false, bondedLink := false }

def stopped (device : Device ε) : Device ε :=
  { device with running := false }

def struck (device : Device ε) (peer : PeerId) : Device ε :=
  { device with whitelist := device.whitelist.erase peer }

/-- A peer is noted at its rank, if it has one. -/
def noted (device : Device ε) (peer : PeerId) : Device ε :=
  { device with sequence :=
      match device.ranking.rankOf? peer with
      | some rank => (device.sequence.note rank peer).2
      | none => device.sequence }

/-- Noting a peer changes only who is detected. -/
theorem sequence_noted (device : Device ε) (peer : PeerId) :
    ∃ detected count, (device.noted peer).sequence = { device.sequence with detected, count } := by
  unfold noted Sequence.note
  cases device.ranking.rankOf? peer with
  | none => exact ⟨_, _, rfl⟩
  | some rank =>
    dsimp only
    split
    · split <;> exact ⟨_, _, rfl⟩
    · exact ⟨_, _, rfl⟩

theorem phase_noted (device : Device ε) (peer : PeerId) :
    (device.noted peer).sequence.phase = device.sequence.phase := by
  obtain ⟨detected, count, same⟩ := device.sequence_noted peer
  rw [same]

theorem passes_noted (device : Device ε) (peer : PeerId) :
    (device.noted peer).sequence.passes = device.sequence.passes := by
  obtain ⟨detected, count, same⟩ := device.sequence_noted peer
  rw [same]

/-- What runs is what is wanted, unless there is a link. -/
def reconciled (device : Device ε) : Device ε :=
  { device with running := if device.link = .down then device.wanted else device.running }

/-- The request that brings what runs in line with what is wanted. -/
def reconcileRequests (device : Device ε) : List RadioRequest :=
  if device.link = .down ∧ device.wanted ≠ device.running then
    if device.wanted then [.start device.profile device.window] else [.stop]
  else
    []

/-- The device waits in a scan for bonded peers. -/
def Scans (device : Device ε) : Prop :=
  (device.mode = .scan ∨ device.mode = .directed) ∧ device.sequence.phase = .scanning

/-- The ranking is taken from the record store, if there is one. -/
def restored [RecordStore ε] (device : Device ε) : Device ε :=
  let (_, ranking, env) := device.ranking.restore device.env
  { device with ranking, env }

theorem env_restored [RecordStore ε] (device : Device ε) :
    device.restored.env =
      (RecordStore.read Ranking.Record.key Ranking.Record.room device.env).2 := by
  simp only [restored, Ranking.restore]
  split
  · next reads => simp [reads]
  · next reads => split <;> simp [reads]

/-- The ranking that an answer of the store holds. -/
def answered? : Except StorageError (Option Reading) → Option Ranking
  | .error _ => none
  | .ok reading => reading.bind Ranking.ofReading?

theorem ranking_restored [RecordStore ε] (device : Device ε) :
    device.restored.ranking =
      (answered? (RecordStore.read Ranking.Record.key Ranking.Record.room device.env).1).getD
        device.ranking := by
  simp only [restored, Ranking.restore]
  split
  · next reads => simp [reads, answered?]
  · next reading env reads =>
    rw [reads]
    cases stored : reading.bind Ranking.ofReading? <;> simp [answered?, stored]

/-- The ranking is rid of peers without a bond. -/
def pruned [RadioStack ε] (device : Device ε) : Device ε :=
  let (dropped, ranking) := device.ranking.retain (Registry.enumerates device.env)
  { device with ranking, unsaved := device.unsaved || 0 < dropped }

end Device

/-! ## Storing the ranking -/

section Storing

variable [RecordStore ε]

/-- How an attempt to store the ranking ends. -/
inductive Saves (device : Device ε) : EStateM.Result Fault (Device ε) Unit → Prop
  | spared : Saves device (.ok () device)
  | done {unsaved : Bool} {saveTries : Nat} : Saves device (.ok () { device with
      env := (device.ranking.persist device.env).2, unsaved, saveTries })
  | failed {unsaved : Bool} {saveTries : Nat} {error : StorageError} :
      Saves device (.error (.storage error) { device with
        env := (device.ranking.persist device.env).2, unsaved, saveTries })

theorem Controller.saveRanking_saves (device : Device ε) : Saves device (saveRanking device) := by
  unfold saveRanking
  split
  · dsimp only
    split
    · exact .done
    · split
      · exact .done
      · exact .failed
  · exact .spared

end Storing

/-! ## The end of a scan -/

section Scan

variable [RadioStack ε]

/-- How a scan window is closed. -/
inductive Closes (device : Device ε) : EStateM.Result Fault (Device ε) Unit → Prop
  | refused {link : Link} {wanted running : Bool} {error : StackError} {env : ε}
      (refuses : Refuses device.stopRequests error device.env env) :
      Closes device (.error (.stack error) { device with link, wanted, running, env })
  | turned {env : ε} (answers : Answers device.stopRequests device.env env) :
      Closes device (Controller.putInForce { device.silenced with env }.forTargets)

/-- The requests of a detection: the shorter whitelist, and the end of the link. -/
def Device.detectRequests (device : Device ε) (peer : PeerId) : List RadioRequest :=
  [.whitelist (device.struck peer).whitelist, .identities (device.struck peer).whitelist] ++
    device.link.dropRequests

/-- A detected peer is off the whitelist, noted, and on its way out. -/
def Device.detected (device : Device ε) (peer : PeerId) : Device ε :=
  { (device.struck peer).noted peer with link := device.link.dropped }

/-- How a detection goes. -/
inductive Detects (device : Device ε) (peer : PeerId) :
    EStateM.Result Fault (Device ε) Unit → Prop
  | refused {link : Link} {wanted running : Bool} {error : StackError} {env : ε}
      (refuses : Refuses (device.detectRequests peer) error device.env env) :
      Detects device peer
        (.error (.stack error) { device.struck peer with link, wanted, running, env })
  | noted {env : ε} (answers : Answers (device.detectRequests peer) device.env env)
      (more : Controller.allDetected (device.detected peer) = false) :
      Detects device peer (.ok () { device.detected peer with env })
  | complete {env : ε} (answers : Answers (device.detectRequests peer) device.env env)
      (all : Controller.allDetected (device.detected peer) = true) :
      Detects device peer
        (Controller.putInForce { device.detected peer with wanted := false, env }.forTargets)

namespace Controller

theorem closeScanWindow_closes {device : Device ε} (scans : device.Scans) :
    Closes device (closeScanWindow device) := by
  have asks := silence_asks device
  unfold closeScanWindow
  rw [bind_apply]
  generalize silence device = result at asks
  cases asks with
  | refused refuses => exact .refused refuses
  | @answered env answers =>
    -- The table is asked after the silencing, which leaves mode and phase alone.
    have same : (act (actionFor { device.silenced with env } .windowEnded) :
        ControlM ε Unit) = turnToTargets := by
      obtain ⟨mode, phase⟩ := scans
      obtain mode | mode := mode <;> simp [actionFor, Device.silenced, mode, phase, transition, act]
    simp only [bind_apply, get_apply]
    rw [same, turnToTargets_apply]
    exact .turned answers

/-- While a link is held there is nothing to stop when a scan window is closed. -/
theorem closeScanWindow_linked {device : Device ε} (scans : device.Scans)
    (linked : device.link ≠ .down) :
    closeScanWindow device = putInForce { device with wanted := false }.forTargets := by
  obtain ⟨mode, phase⟩ := scans
  unfold closeScanWindow
  simp only [bind_apply, silence_apply, linked, false_and, if_false, get_apply]
  have same : (act (actionFor { device with wanted := false } .windowEnded) :
      ControlM ε Unit) = turnToTargets := by
    obtain mode | mode := mode <;> simp [actionFor, mode, phase, transition, act]
  rw [same, turnToTargets_apply]

omit [RadioStack ε] in
theorem noteDetection_apply (peer : PeerId) (device : Device ε) :
    noteDetection peer device = .ok () (device.noted peer) := by
  simp only [noteDetection, modify_apply, Device.noted]
  cases device.ranking.rankOf? peer <;> rfl

/-- The last part of a detection. -/
def noteAndClose (peer : PeerId) : ControlM ε Unit := do
  noteDetection peer
  if allDetected (← get) then closeScanWindow

theorem onDetected_detects {device : Device ε} {peer : PeerId} (scans : device.Scans)
    (linked : device.link ≠ .down) : Detects device peer (onDetected peer device) := by
  have asks : Asks (device.detectRequests peer) (device.struck peer)
      { device.struck peer with link := device.link.dropped }
      ((sendWhitelist >>= fun _ => dropLink) (device.struck peer)) :=
    Asks.bind (device.struck peer) (sendWhitelist_asks (device.struck peer))
      (fun env => dropLink_asks { device.struck peer with env }) fun _ _ _ _ => rfl
  -- The requests of a detection come first and make one row; noting the peer cannot fail.
  have grouped : onDetected peer = (modify fun device : Device ε => device.struck peer) >>= fun _ =>
      (sendWhitelist >>= fun _ => dropLink) >>= fun _ => noteAndClose peer := by
    rw [bind_assoc]
    rfl
  rw [grouped, bind_apply, modify_apply]
  dsimp only
  rw [bind_apply]
  generalize (sendWhitelist >>= fun _ => dropLink) (device.struck peer) = result at asks
  cases asks with
  | refused refuses => exact .refused refuses
  | @answered env answers =>
    simp only [noteAndClose, bind_apply, noteDetection_apply, get_apply]
    have detected : ({ device.struck peer with link := device.link.dropped, env } :
        Device ε).noted peer = { device.detected peer with env } := rfl
    rw [detected]
    cases all : allDetected (device.detected peer) with
    | true =>
      -- The device still scans when the window is closed, for noting changes no phase.
      have scansOn : ({ device.detected peer with env } : Device ε).Scans :=
        ⟨scans.1, by rw [← scans.2]; exact device.phase_noted peer⟩
      rw [if_pos (show allDetected { device.detected peer with env } = true from all),
        closeScanWindow_linked scansOn (by simpa [Device.detected] using linked)]
      exact .complete answers all
    | false =>
      rw [if_neg (show ¬allDetected { device.detected peer with env } = true by
        rw [show allDetected { device.detected peer with env } = false from all]; simp)]
      exact .noted answers all

end Controller

/-- Only refusals of the stack end the closing of a scan early. -/
theorem Closes.error {device next : Device ε} {result : EStateM.Result Fault (Device ε) Unit}
    {fault : Fault} (closes : Closes device result) (error : result = .error fault next) :
    ∃ error, fault = .stack error := by
  cases closes with
  | refused refuses =>
    cases error
    exact ⟨_, rfl⟩
  | @turned env answers =>
    -- The window behind the scan is put into force, where again only the stack refuses.
    have asks := Controller.putInForce_asks { device.silenced with env }.forTargets
    rw [error] at asks
    exact asks.error

/-! ## Outcomes of the stack -/

/-- How a central that has connected is received. -/
inductive Receives (device : Device ε) :
    Option PeerId → EStateM.Result Fault (Device ε) Unit → Prop
  | ignored {peer : Option PeerId} (idle : device.mode = .idle) :
      Receives device peer (.ok () device)
  | paired (mode : device.mode = .pairing) :
      Receives device none (.ok () { device with wanted := false })
  | kept {peer : PeerId}
      (meant : device.mode = .anyBonded ∨
        (device.mode = .scan ∨ device.mode = .directed) ∧ device.sequence.phase = .connection) :
      Receives device (some peer) (.ok () { device with wanted := false })
  | dropped {peer : Option PeerId} (advertises : device.mode ≠ .idle)
      (stranger : peer.isSome → device.mode = .pairing) :
      Receives device peer (Controller.dropLink device)
  | detected {peer : PeerId} {result : EStateM.Result Fault (Device ε) Unit} (scans : device.Scans)
      (detects : Detects device peer result) : Receives device (some peer) result

/-- How the present window runs out. -/
inductive Expires (device : Device ε) : EStateM.Result Fault (Device ε) Unit → Prop
  | ignored (undirected : device.mode ≠ .directed) (closed : device.mode ≠ .pairing) :
      Expires device (.ok () device.stopped)
  | rested (mode : device.mode = .pairing) :
      Expires device (.ok () { device.stopped.forRest with wanted := false })
  | scanned (mode : device.mode = .directed) (phase : device.sequence.phase = .scanning) :
      Expires device (Controller.putInForce device.stopped.forTargets)
  | offered (mode : device.mode = .directed) (phase : device.sequence.phase = .connection) :
      Expires device (Controller.putInForce device.stopped.forNext)

/-- How a pending erasure of the bonds goes.  A refused one is no longer pending. -/
inductive Erases (device : Device ε) : EStateM.Result Fault (Device ε) Unit → Prop
  | spared (keeps : ¬(device.erasePending = true ∧ device.link = .down)) :
      Erases device (.ok () device)
  | refused {link : Link} {wanted running : Bool} {error : StackError} {env : ε}
      (pending : device.erasePending = true) (down : device.link = .down)
      (refuses : Refuses [.forgetBonds] error device.env env) :
      Erases device (.error (.stack error)
        { device with erasePending := false, link, wanted, running, env })
  | erased {env : ε} (pending : device.erasePending = true) (down : device.link = .down)
      (answers : Answers [.forgetBonds] device.env env) :
      Erases device (.ok ()
        { device with erasePending := false, ranking := .empty, unsaved := true, env })

namespace Controller

theorem silence_linked {device : Device ε} (linked : device.link ≠ .down) :
    silence device = .ok () { device with wanted := false } := by
  rw [silence_apply, if_neg (fun down => linked down.1)]

theorem respond_apply (event : WindowEvent) (device : Device ε) :
    respond event device =
      match actionFor device event.kind, event with
      | .noteDetection, .peerConnecting peer => onDetected peer device
      | action, _ => act action device := by
  simp only [respond, bind_apply, get_apply]
  cases event <;> cases actionFor device _ <;> rfl

/-- What the table makes of a central that has connected. -/
def reception (device : Device ε) : Option PeerId → WindowEvent
  | some peer => if device.mode = .pairing then .peerIntruding else .peerConnecting peer
  | none => .strangerConnecting

/-- Both modes of the directed sequence receive a central alike. -/
theorem respond_receives_sequenced {device : Device ε} (peer : Option PeerId)
    (linked : device.link ≠ .down) (mode : device.mode = .scan ∨ device.mode = .directed) :
    Receives device peer (respond (reception device peer) device) := by
  have other : device.mode ≠ .pairing := by obtain mode | mode := mode <;> simp [mode]
  have advertises : device.mode ≠ .idle := by obtain mode | mode := mode <;> simp [mode]
  cases peer with
  | none =>
    -- A stranger is sent away in both phases.
    have action : actionFor device .strangerConnecting = .dropLink := by
      obtain mode | mode := mode <;> cases phase : device.sequence.phase <;>
        simp [actionFor, transition, mode, phase]
    simp only [respond_apply, reception, WindowEvent.kind, action, act]
    exact .dropped advertises fun known => by cases known
  | some peer =>
    simp only [respond_apply, reception, other, if_false, WindowEvent.kind]
    cases phase : device.sequence.phase with
    | scanning =>
      -- A peer that answers the scan is noted, one that takes a directed window keeps its link.
      have action : actionFor device .peerConnecting = .noteDetection := by
        obtain mode | mode := mode <;> simp [actionFor, transition, mode, phase]
      simp only [action]
      exact .detected ⟨mode, phase⟩ (onDetected_detects ⟨mode, phase⟩ linked)
    | connection =>
      have action : actionFor device .peerConnecting = .keepLink := by
        obtain mode | mode := mode <;> simp [actionFor, transition, mode, phase]
      simp only [action, act]
      rw [silence_linked linked]
      exact .kept (.inr ⟨mode, phase⟩)

theorem respond_receives {device : Device ε} (peer : Option PeerId) (linked : device.link ≠ .down) :
    Receives device peer (respond (reception device peer) device) := by
  cases mode : device.mode with
  | idle =>
    cases peer <;> simp only [respond_apply, reception, actionFor, transition, mode] <;>
      exact .ignored mode
  | pairing =>
    cases peer with
    | none =>
      simp only [respond_apply, reception, actionFor, transition, mode, WindowEvent.kind, act]
      rw [silence_linked linked]
      exact .paired mode
    | some peer =>
      simp only [respond_apply, reception, actionFor, transition, mode, WindowEvent.kind, act]
      exact .dropped (by simp [mode]) fun _ => mode
  | anyBonded =>
    cases peer with
    | none =>
      simp only [respond_apply, reception, actionFor, transition, mode, WindowEvent.kind, act]
      exact .dropped (by simp [mode]) fun known => by cases known
    | some peer =>
      simp only [respond_apply, reception, actionFor, transition, mode, WindowEvent.kind, act]
      simp only [reduceCtorEq, if_false]
      rw [silence_linked linked]
      exact .kept (.inl mode)
  | scan => exact respond_receives_sequenced peer linked (.inl mode)
  | directed => exact respond_receives_sequenced peer linked (.inr mode)

theorem onConnected_apply (peer : Option PeerId) (handle : LinkHandle) (device : Device ε) :
    onConnected peer handle device =
      if device.link = .down then
        respond (reception (device.linked peer handle) peer) (device.linked peer handle)
      else
        .ok () device := by
  simp only [onConnected, bind_apply, get_apply]
  split
  · cases peer <;> rfl
  · rfl

theorem onConnected_down {device : Device ε} (peer : Option PeerId) (handle : LinkHandle)
    (down : device.link = .down) :
    Receives (device.linked peer handle) peer (onConnected peer handle device) := by
  have up : (device.linked peer handle).link ≠ .down := by simp [Device.linked]
  rw [onConnected_apply, if_pos down]
  exact respond_receives peer up

/-- While a link is held no other is taken up. -/
theorem onConnected_linked {device : Device ε} (peer : Option PeerId) (handle : LinkHandle)
    (linked : device.link ≠ .down) : onConnected peer handle device = .ok () device := by
  rw [onConnected_apply, if_neg linked]

theorem onDisconnected_apply (device : Device ε) :
    onDisconnected device =
      match device.link with
      | .down => .ok () device
      | .closing _ => .ok () device.unlinked
      | .up _ =>
        if !device.bondedLink && device.mode = .pairing then putInForce device.unlinked.forPairing
        else putInForce device.unlinked.forSequence := by
  simp only [onDisconnected, bind_apply, get_apply]
  cases device.link with
  | down => rfl
  | closing handle => rfl
  | up handle =>
    simp only [bind_apply, set_apply]
    split
    · exact openPairing_apply _
    · exact startSequence_apply _

theorem respond_windowEnded {device : Device ε}
    (mode : device.mode = .directed ∨ device.mode = .anyBonded) :
    Expires device (respond .windowEnded device.stopped) := by
  rw [respond_apply]
  obtain mode | mode := mode
  · cases phase : device.sequence.phase with
    | scanning =>
      have action : actionFor device.stopped .windowEnded = .turnToTargets := by
        simp [actionFor, transition, Device.stopped, mode, phase]
      simp only [WindowEvent.kind, action, act, turnToTargets_apply]
      exact .scanned mode phase
    | connection =>
      have action : actionFor device.stopped .windowEnded = .turnToNext := by
        simp [actionFor, transition, Device.stopped, mode, phase]
      simp only [WindowEvent.kind, action, act, turnToNext_apply]
      exact .offered mode phase
  · have action : actionFor device.stopped .windowEnded = .ignore := by
      simp [actionFor, transition, Device.stopped, mode]
    simp only [WindowEvent.kind, action, act, pure_apply]
    exact .ignored (by simp [mode]) (by simp [mode])

theorem onTimedOut_apply (window : Window) (device : Device ε) :
    onTimedOut window device =
      if window = device.window then
        match device.mode with
        | .directed | .anyBonded => respond .windowEnded device.stopped
        | .pairing => rest device.stopped
        | .scan | .idle => .ok () device.stopped
      else
        .ok () device := by
  simp only [onTimedOut, bind_apply, get_apply]
  split
  · simp only [bind_apply, set_apply]
    generalize same : ({ device with running := false } : Device ε) = stopped
    replace same : device.stopped = stopped := same
    rw [same]
    cases device.mode <;> rfl
  · rfl

theorem onTimedOut_expires (device : Device ε) :
    Expires device (onTimedOut device.window device) := by
  rw [onTimedOut_apply, if_pos rfl]
  cases mode : device.mode with
  | directed => exact respond_windowEnded (.inl mode)
  | anyBonded => exact respond_windowEnded (.inr mode)
  | pairing =>
    -- The window is over by now, so resting has nothing to stop.
    have idles : ¬(device.stopped.forRest.link = .down ∧ device.stopped.forRest.running) := by
      simp [Device.forRest, Device.counted, Device.stopped]
    simp only [rest_apply]
    rw [silence_apply, if_neg idles]
    exact .rested mode
  | scan => exact .ignored (by simp [mode]) (by simp [mode])
  | idle => exact .ignored (by simp [mode]) (by simp [mode])

theorem onTimedOut_stale {window : Window} {device : Device ε} (stale : window ≠ device.window) :
    onTimedOut window device = .ok () device := by
  rw [onTimedOut_apply, if_neg stale]

section Store

variable [RecordStore ε]

omit [RadioStack ε] in
theorem onBonded_apply (peer : PeerId) (device : Device ε) :
    onBonded peer device =
      match device.link with
      | .up _ =>
        let (insertion, ranking) := device.ranking.insert peer
        if insertion.changed then
          saveRanking { device with bondedLink := true, ranking, unsaved := true }
        else
          .ok () { device with bondedLink := true, ranking }
      | .down | .closing _ => .ok () device := by
  simp only [onBonded, bind_apply, get_apply]
  cases device.link with
  | down => rfl
  | closing handle => rfl
  | up handle =>
    simp only [bind_apply, set_apply]
    split <;> rfl

omit [RadioStack ε] in
theorem final_onStorageFull (device : Device ε) :
    final (onStorageFull device) = { device with env := (RecordStore.reclaim device.env).2 } := by
  unfold onStorageFull
  dsimp only
  split <;> rfl

/-! ## Requests and ticks -/

omit [RecordStore ε] in
theorem onRequest_pairingWindow (device : Device ε) :
    onRequest .pairingWindow device = putInForce device.forPairing := rfl

omit [RecordStore ε] in
theorem onRequest_moveCursor (movement : Movement) (device : Device ε) :
    onRequest (.moveCursor movement) device =
      match device.link with
      | .up handle => ask (.movement handle movement) device
      | .down | .closing _ => .ok () device := by
  simp only [onRequest, bind_apply, get_apply]
  cases device.link <;> rfl

omit [RecordStore ε] in
theorem reconcile_apply (device : Device ε) :
    reconcile device =
      if device.link = .down ∧ device.wanted ≠ device.running then
        if device.wanted then startRadio device else stopRadio device
      else
        .ok () device := by
  simp only [reconcile, bind_apply, get_apply]
  split
  · split <;> rfl
  · rfl

omit [RecordStore ε] in
theorem reconcile_asks (device : Device ε) :
    Asks device.reconcileRequests device device.reconciled (reconcile device) := by
  rw [Device.reconcileRequests, reconcile_apply]
  -- One request at most: a start if advertising is wanted, else a stop.
  by_cases differs : device.link = .down ∧ device.wanted ≠ device.running
  · rw [if_pos differs, if_pos differs]
    by_cases wanted : device.wanted = true
    · have target : device.reconciled = { device with running := true } := by
        rw [Device.reconciled, if_pos differs.1, wanted]
      rw [if_pos wanted, if_pos wanted, target]
      exact startRadio_asks device
    · have target : device.reconciled = { device with running := false } := by
        rw [Device.reconciled, if_pos differs.1, Bool.eq_false_iff.2 wanted]
      rw [if_neg wanted, if_neg wanted, target]
      exact stopRadio_asks device
  · rw [if_neg differs, if_neg differs]
    have same : (if device.link = .down then device.wanted else device.running) =
        device.running := by
      by_cases down : device.link = .down
      · rw [if_pos down]
        simpa [down] using differs
      · rw [if_neg down]
    exact .nothing (by rw [Device.reconciled, same]) rfl

omit [RecordStore ε] in
theorem eraseWhenDown_apply (device : Device ε) :
    eraseWhenDown device =
      if device.erasePending ∧ device.link = .down then
        match ask .forgetBonds { device with erasePending := false } with
        | .ok () next => .ok () { next with ranking := .empty, unsaved := true }
        | .error fault next => .error fault next
      else
        .ok () device := by
  simp only [eraseWhenDown, bind_apply, get_apply]
  split
  · simp only [bind_apply, set_apply]
    cases ask .forgetBonds { device with erasePending := false } <;> rfl
  · rfl

omit [RecordStore ε] in
theorem eraseWhenDown_erases (device : Device ε) : Erases device (eraseWhenDown device) := by
  rw [eraseWhenDown_apply]
  split
  · next due =>
    have asks := ask_asks .forgetBonds { device with erasePending := false }
    generalize ask .forgetBonds { device with erasePending := false } = result at asks
    cases asks with
    | answered answers => exact .erased due.1 due.2 answers
    | refused refuses => exact .refused due.1 due.2 refuses
  · next keeps => exact .spared keeps

theorem tick_fault {device : Device ε} {fault : Fault} (recorded : device.fault = some fault) :
    tick device = .error fault { device with fault := none } := by
  simp only [tick, bind_apply, get_apply, recorded, set_apply, throw_apply]

theorem tick_apply {device : Device ε} (clear : device.fault = none) :
    tick device = (do reconcile; eraseWhenDown; saveRanking : ControlM ε Unit) device := by
  simp only [tick, bind_apply, get_apply, clear]

/-! ## Start -/

theorem start_apply (device : Device ε) :
    start device =
      (putInForce >>= fun _ => saveRanking : ControlM ε Unit) device.restored.pruned.forSequence := by
  simp only [start, restoreRanking, pruneRanking, bind_apply, modify_apply]
  rw [startSequence_apply]
  rfl

end Store

end Controller

/-! ## The scan timer -/

/-- How the end of the scan timer goes. -/
inductive Rings (device : Device ε) : Device ε → Prop
  | ignored (quiet : ¬(device.mode = .scan ∧ device.sequence.phase = .scanning)) :
      Rings device device
  | closed {result : EStateM.Result Fault (Device ε) Unit} {next : Device ε}
      (mode : device.mode = .scan) (phase : device.sequence.phase = .scanning)
      (closes : Closes device result) (ok : result = .ok () next) : Rings device next
  | failed {result : EStateM.Result Fault (Device ε) Unit} {fault : Fault} {next : Device ε}
      (mode : device.mode = .scan) (phase : device.sequence.phase = .scanning)
      (closes : Closes device result) (error : result = .error fault next) :
      Rings device { next with fault := some fault }

theorem Controller.onScanTimer_rings (device : Device ε) : Rings device (onScanTimer device) := by
  unfold onScanTimer
  split
  · next scans =>
    have closes : Closes device (closeScanWindow device) :=
      closeScanWindow_closes ⟨.inl scans.1, scans.2⟩
    have run : closeScanWindow.run device = closeScanWindow device := rfl
    rw [run]
    cases result : closeScanWindow device with
    | ok value next => exact .closed scans.1 scans.2 closes result
    | error fault next => exact .failed scans.1 scans.2 closes result
  · next quiet => exact .ignored quiet

end Scan

end BondedMouse
