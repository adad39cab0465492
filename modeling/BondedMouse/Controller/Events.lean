import BondedMouse.Controller.Windows

/-! # Events, requests and ticks

How the controller answers an outcome of the radio stack, a request of the user, the
tick of the main loop and the end of a scan window.  The table `transition` picks the
action; none of the actions comes back to the table with an event of its own kind, so
no recursion is needed.
-/

namespace BondedMouse.Controller

variable {ε : Type}

/-! ## The directed sequence -/

section Sequence

variable [RadioStack ε]

/-- Turns from the scan to its first target, or scans again. -/
def turnToTargets : ControlM ε Unit := do
  let (first, sequence) := (← get).sequence.closeScan
  modify fun device => { device with sequence }
  match first with
  | some peer => openDirected peer
  | none => openScan

/-- Turns to the next target, to a new scan or to the window for every bonded peer. -/
def turnToNext : ControlM ε Unit := do
  let (turn, sequence) := (← get).sequence.turn
  modify fun device => { device with sequence }
  match turn with
  | .next peer => openDirected peer
  | .scanAgain => openScan
  | .giveUp => openAnyBonded

/-- Does an action that concerns no peer in particular. -/
def act : Action → ControlM ε Unit
  | .ignore | .noteDetection => pure ()
  | .dropLink => dropLink
  | .endWindow | .keepLink => silence
  | .turnToTargets => turnToTargets
  | .turnToNext => turnToNext

def actionFor (device : Device ε) (kind : EventKind) : Action :=
  transition device.mode device.sequence.phase kind

def closeScanWindow : ControlM ε Unit := do
  silence
  act (actionFor (← get) .windowEnded)

def noteDetection (peer : PeerId) : ControlM ε Unit :=
  modify fun device =>
    match device.ranking.rankOf? peer with
    | some rank => { device with sequence := (device.sequence.note rank peer).2 }
    | none => device

/-- Every ranked peer has been detected, and there is one. -/
def allDetected (device : Device ε) : Bool :=
  0 < device.sequence.count && device.ranking.count ≤ device.sequence.count

/-- Takes a peer that answered the scan off the whitelist, drops its link and notes it.  The
scan ends early once every ranked peer was seen. -/
def onDetected (peer : PeerId) : ControlM ε Unit := do
  modify fun device => { device with whitelist := device.whitelist.erase peer }
  sendWhitelist
  dropLink
  noteDetection peer
  if allDetected (← get) then closeScanWindow

def respond (event : WindowEvent) : ControlM ε Unit := do
  match actionFor (← get) event.kind, event with
  | .noteDetection, .peerConnecting peer => onDetected peer
  | action, _ => act action

/-- The end of the scan timer.  A timer that was set for an earlier scan and is not due to the
present one is ignored; a fault waits for the next tick. -/
def onScanTimer (device : Device ε) : Device ε :=
  if device.mode = .scan ∧ device.sequence.phase = .scanning then
    match closeScanWindow.run device with
    | .ok () device => device
    | .error fault device => { device with fault := some fault }
  else
    device

end Sequence

/-! ## Outcomes of the stack -/

variable [RadioStack ε] [RecordStore ε]

/-- Asks the store to collect its garbage; a busy store already does. -/
def onStorageFull : ControlM ε Unit := fun device =>
  let (result, env) := RecordStore.reclaim device.env
  match result with
  | .ok () | .error .busy => .ok () { device with env }
  | .error error => .error (.storage error) { device with env }

/-- A central connected.  While a link is held there can be no other, so such a report is
ignored. -/
def onConnected (peer : Option PeerId) (handle : LinkHandle) : ControlM ε Unit := do
  let device ← get
  if device.link = .down then
    set { device with link := .up handle, running := false, bondedLink := peer.isSome }
    match peer with
    | some peer =>
      respond (if device.mode = .pairing then .peerIntruding else .peerConnecting peer)
    | none => respond .strangerConnecting

/-- The link is gone.  Unless the device asked for it, it advertises again: for the central that
was pairing, or for its bonded peers. -/
def onDisconnected : ControlM ε Unit := do
  let device ← get
  let freed := { device with link := .down, running := false, bondedLink := false }
  match device.link with
  | .down => pure ()
  | .closing _ => set freed
  | .up _ =>
    set freed
    if !device.bondedLink && device.mode = .pairing then openPairing else startSequence

/-- The link's peer is bonded: it becomes the most recent one. -/
def onBonded (peer : PeerId) : ControlM ε Unit := do
  let device ← get
  match device.link with
  | .up _ =>
    let (insertion, ranking) := device.ranking.insert peer
    set { device with bondedLink := true, ranking }
    if insertion.changed then
      modify fun device => { device with unsaved := true }
      saveRanking
  | .down | .closing _ => pure ()

/-- A window ran out.  Only the present window counts. -/
def onTimedOut (window : Window) : ControlM ε Unit := do
  let device ← get
  if window = device.window then
    set { device with running := false }
    match device.mode with
    | .directed | .anyBonded => respond .windowEnded
    | .pairing => rest
    | .scan | .idle => pure ()

def onEvent : RadioEvent → ControlM ε Unit
  | .connected peer handle => onConnected peer handle
  | .disconnected => onDisconnected
  | .bonded peer => onBonded peer
  | .timedOut window => onTimedOut window
  | .storageFull => onStorageFull
  | .bondsErased => startSequence

/-! ## Requests and ticks -/

def onRequest : Request → ControlM ε Unit
  | .moveCursor movement => do
    match (← get).link with
    | .up handle => ask (.movement handle movement)
    | .down | .closing _ => pure ()
  | .pairingWindow => openPairing
  | .eraseBonds => modify fun device => { device with erasePending := true }
  | .disconnect => dropLink

/-- Starts or stops the stack's advertising where it is not as wanted and there is no link. -/
def reconcile : ControlM ε Unit := do
  let device ← get
  if device.link = .down ∧ device.wanted ≠ device.running then
    if device.wanted then startRadio else stopRadio

/-- Erases the bonds and the ranking, if that was asked for and there is no link. -/
def eraseWhenDown : ControlM ε Unit := do
  let device ← get
  if device.erasePending ∧ device.link = .down then
    set { device with erasePending := false }
    ask .forgetBonds
    modify fun device => { device with ranking := .empty, unsaved := true }

/-- The main loop's tick: reports the fault of a timer callback, or brings the stack and the store
up to date. -/
def tick : ControlM ε Unit := do
  let device ← get
  match device.fault with
  | some fault =>
    set { device with fault := none }
    throw fault
  | none =>
    reconcile
    eraseWhenDown
    saveRanking

/-! ## Start -/

/-- Takes the ranking from the record store, if there is one. -/
def restoreRanking : ControlM ε Unit :=
  modify fun device =>
    let (_, ranking, env) := device.ranking.restore device.env
    { device with ranking, env }

def pruneRanking : ControlM ε Unit :=
  modify fun device =>
    let (dropped, ranking) := device.ranking.retain (Registry.enumerates device.env)
    { device with ranking, unsaved := device.unsaved || 0 < dropped }

/-- Starts the device: restores and prunes the ranking and begins the directed sequence. -/
def start : ControlM ε Unit := do
  restoreRanking
  pruneRanking
  startSequence
  saveRanking

end BondedMouse.Controller
