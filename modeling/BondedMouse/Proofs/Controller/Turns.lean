import BondedMouse.Proofs.Controller.Events

/-! # What an operation does to the window

Seen from the window, an operation does one of three things: it leaves the window
alone, it takes a detected peer off the whitelist, or it opens another window.  `Turns`
says which, for each operation and whatever the stack and the store answer.
-/

namespace BondedMouse

variable {ε : Type}

/-! ## Changes beside the window -/

/-- The window and the sequence are the same on both devices. -/
structure SameWindow (device other : Device ε) : Prop where
  mode : other.mode = device.mode
  profile : other.profile = device.profile
  window : other.window = device.window
  whitelist : other.whitelist = device.whitelist
  sequence : other.sequence = device.sequence

theorem SameWindow.refl (device : Device ε) : SameWindow device device := ⟨rfl, rfl, rfl, rfl, rfl⟩

theorem SameWindow.trans {device middle last : Device ε} (first : SameWindow device middle)
    (rest : SameWindow middle last) : SameWindow device last :=
  ⟨rest.mode.trans first.mode, rest.profile.trans first.profile, rest.window.trans first.window,
    rest.whitelist.trans first.whitelist, rest.sequence.trans first.sequence⟩

section Turns

variable [RadioStack ε] [RecordStore ε]

omit [RecordStore ε] in
theorem Asks.sameWindow {requests : List RadioRequest} {device target : Device ε}
    {result : EStateM.Result Fault (Device ε) Unit} (asks : Asks requests device target result) :
    SameWindow target (Controller.final result) := by
  cases asks <;> exact ⟨rfl, rfl, rfl, rfl, rfl⟩

theorem Asks.calls {requests : List RadioRequest} {device target : Device ε}
    {result : EStateM.Result Fault (Device ε) Unit} (asks : Asks requests device target result)
    (keeps : .forgetBonds ∉ requests) : Calls device.env (Controller.final result).env := by
  cases asks with
  | answered answers => exact answers.calls keeps
  | refused refuses => exact refuses.calls keeps

omit [RadioStack ε] in
theorem Saves.sameWindow {device : Device ε} {result : EStateM.Result Fault (Device ε) Unit}
    (saves : Saves device result) : SameWindow device (Controller.final result) := by
  cases saves <;> exact ⟨rfl, rfl, rfl, rfl, rfl⟩

theorem Saves.calls {device : Device ε} {result : EStateM.Result Fault (Device ε) Unit}
    (saves : Saves device result) : Calls device.env (Controller.final result).env := by
  cases saves with
  | spared => exact .refl
  | done => exact Calls.refl.write _ _
  | failed => exact Calls.refl.write _ _

namespace Device

omit [RadioStack ε] [RecordStore ε] in
theorem forgetBonds_not_mem_stopRequests (device : Device ε) :
    RadioRequest.forgetBonds ∉ device.stopRequests := by
  unfold stopRequests
  split <;> simp

omit [RadioStack ε] [RecordStore ε] in
theorem forgetBonds_not_mem_detectRequests (device : Device ε) (peer : PeerId) :
    RadioRequest.forgetBonds ∉ device.detectRequests peer := by
  unfold detectRequests Link.dropRequests
  split <;> simp

omit [RadioStack ε] [RecordStore ε] in
theorem forgetBonds_not_mem_openingRequests (device : Device ε) :
    RadioRequest.forgetBonds ∉ device.openingRequests := by
  have start : RadioRequest.forgetBonds ∉ device.silenced.startRequests := by
    unfold startRequests Link.dropRequests
    split
    · split <;> simp
    · split <;> simp
  simp [openingRequests, device.forgetBonds_not_mem_stopRequests, start]

omit [RadioStack ε] [RecordStore ε] in
theorem forgetBonds_not_mem_reconcileRequests (device : Device ε) :
    RadioRequest.forgetBonds ∉ device.reconcileRequests := by
  unfold reconcileRequests
  split
  · split <;> simp
  · simp

end Device

/-! ## The three ways -/

/-- The ways to describe the window that follows, but for a raw change of mode. -/
inductive Opens (middle : Device ε) : Device ε → Prop
  | rest : Opens middle middle.forRest
  | pairing : Opens middle middle.forPairing
  | targets : Opens middle middle.forTargets
  | next (phase : middle.sequence.phase = .connection) : Opens middle middle.forNext
  | sequence : Opens middle middle.forSequence

namespace Opens

variable {middle described : Device ε}

omit [RecordStore ε] in
/-- All of these but the rest describe a window. -/
theorem describes (opens : Opens middle described) :
    described = middle.forRest ∨ Describes middle described := by
  cases opens with
  | rest => exact .inl rfl
  | pairing => exact .inr (.pairing middle)
  | targets => exact .inr (.targets middle)
  | next phase => exact .inr (.next middle)
  | sequence => exact .inr (.sequence middle)

omit [RecordStore ε] in
theorem numbered (opens : Opens middle described) : described.window ≠ middle.window := by
  obtain rfl | describes := opens.describes
  · exact middle.window.next_ne
  · exact describes.numbered

omit [RecordStore ε] in
theorem env (opens : Opens middle described) : described.env = middle.env := by
  obtain rfl | describes := opens.describes
  · rfl
  · exact describes.env

omit [RecordStore ε] in
/-- A scan begins with nobody detected. -/
theorem restarts (opens : Opens middle described) (scan : described.mode = .scan) :
    ∃ earlier : Sequence, described.sequence = earlier.restart := by
  obtain rfl | describes := opens.describes
  · cases scan
  · exact describes.restarts scan

end Opens

/-- What an operation that accepts some peers does to the window. -/
inductive Turns (before : Device ε) (accepted : List PeerId) (after : Device ε) : Prop
  | beside (same : SameWindow before after) (quiet : before.Scans → accepted = [])
  | detected {peer : PeerId} (scans : before.Scans) (single : accepted = [peer])
      (mode : after.mode = before.mode) (profile : after.profile = before.profile)
      (window : after.window = before.window)
      (whitelist : after.whitelist = before.whitelist.erase peer)
      (phase : after.sequence.phase = before.sequence.phase)
  | opened {middle described : Device ε} (opens : Opens middle described)
      (window : middle.window = before.window) (first : Calls before.env middle.env)
      (same : SameWindow described after) (rest : Calls described.env after.env)

namespace Turns

variable {before middle after : Device ε} {accepted : List PeerId}

/-- What follows may change things beside the window. -/
theorem then_same (turns : Turns before accepted middle) (same : SameWindow middle after)
    (calls : Calls middle.env after.env) : Turns before accepted after := by
  cases turns with
  | beside before quiet => exact .beside (before.trans same) quiet
  | detected scans single mode profile window whitelist phase =>
    exact .detected scans single (same.mode.trans mode) (same.profile.trans profile)
      (same.window.trans window) (same.whitelist.trans whitelist)
      ((congrArg Sequence.phase same.sequence).trans phase)
  | opened opens window first described rest =>
    exact .opened opens window first (described.trans same) (rest.trans calls)

/-- What precedes may change things beside the window. -/
theorem same_then (turns : Turns middle accepted after) (same : SameWindow before middle)
    (calls : Calls before.env middle.env) : Turns before accepted after := by
  have scans : before.Scans → middle.Scans := by
    unfold Device.Scans
    rw [same.mode, same.sequence]
    exact id
  cases turns with
  | beside after quiet => exact .beside (same.trans after) fun scanning => quiet (scans scanning)
  | detected scanning single mode profile window whitelist phase =>
    refine .detected ?_ single (mode.trans same.mode) (profile.trans same.profile)
      (window.trans same.window) (whitelist.trans (by rw [same.whitelist]))
      (phase.trans (congrArg Sequence.phase same.sequence))
    unfold Device.Scans at scanning ⊢
    rwa [same.mode, same.sequence] at scanning
  | opened opens window first described rest =>
    exact .opened opens (window.trans same.window) (calls.trans first) described rest

end Turns

open Controller

/-- A window that is described and put into force, in whatever way that ends. -/
theorem putInForce_turns {before middle described : Device ε} {accepted : List PeerId}
    (opens : Opens middle described) (window : middle.window = before.window)
    (first : Calls before.env middle.env) :
    Turns before accepted (final (putInForce described)) := by
  have asks := putInForce_asks described
  have shifted : SameWindow described described.silenced.advertised := ⟨rfl, rfl, rfl, rfl, rfl⟩
  exact .opened opens window first (shifted.trans asks.sameWindow)
    (asks.calls described.forgetBonds_not_mem_openingRequests)

/-! ## Operations -/

section Operations

variable {device : Device ε} {result : EStateM.Result Fault (Device ε) Unit}

theorem Closes.turns (closes : Closes device result) : Turns device [] (final result) := by
  cases closes with
  | refused refuses => exact .beside ⟨rfl, rfl, rfl, rfl, rfl⟩ fun _ => rfl
  | @turned env answers =>
    exact putInForce_turns .targets rfl (answers.calls device.forgetBonds_not_mem_stopRequests)

theorem Detects.turns {peer : PeerId} (scans : device.Scans) (detects : Detects device peer result) :
    Turns device [peer] (final result) := by
  cases detects with
  | refused refuses => exact .detected scans rfl rfl rfl rfl rfl rfl
  | noted answers more =>
    exact .detected scans rfl rfl rfl rfl rfl ((device.struck peer).phase_noted peer)
  | @complete env answers all =>
    exact putInForce_turns .targets rfl
      (answers.calls (device.forgetBonds_not_mem_detectRequests peer))

omit [RecordStore ε] in
theorem dropLink_sameWindow (device : Device ε) : SameWindow device (final (dropLink device)) := by
  have same : SameWindow device { device with link := device.link.dropped } :=
    ⟨rfl, rfl, rfl, rfl, rfl⟩
  exact same.trans (dropLink_asks device).sameWindow

theorem Receives.turns {peer : Option PeerId} (receives : Receives device peer result) :
    Turns device peer.toList (final result) := by
  cases receives with
  | ignored idle =>
    apply Turns.beside (.refl device)
    intro scans
    -- A device that scans is not idle.
    obtain ⟨mode | mode, phase⟩ := scans <;> simp [idle] at mode
  | paired mode => exact .beside ⟨rfl, rfl, rfl, rfl, rfl⟩ fun _ => rfl
  | kept meant =>
    refine .beside ⟨rfl, rfl, rfl, rfl, rfl⟩ fun scans => ?_
    -- A link is kept in another mode than the scan, or in the other phase.
    obtain ⟨mode, scanning⟩ := scans
    obtain other | ⟨-, phase⟩ := meant
    · obtain mode | mode := mode <;> simp [other] at mode
    · simp [phase] at scanning
  | dropped advertises stranger =>
    apply Turns.beside (dropLink_sameWindow device)
    intro scans
    cases peer with
    | none => rfl
    -- A known peer is dropped in the pairing window only, which does not scan.
    | some peer => obtain ⟨mode | mode, phase⟩ := scans <;> simp [stranger rfl] at mode
  | detected scans detects => exact detects.turns scans

theorem Expires.turns (expires : Expires device result) : Turns device [] (final result) := by
  cases expires with
  | ignored undirected closed => exact .beside ⟨rfl, rfl, rfl, rfl, rfl⟩ fun _ => rfl
  | rested mode => exact .opened .rest rfl .refl ⟨rfl, rfl, rfl, rfl, rfl⟩ .refl
  | scanned mode phase => exact putInForce_turns .targets rfl .refl
  | offered mode phase => exact putInForce_turns (.next phase) rfl .refl

/-- The known peer that is accepted when a central connects: none while there is a link. -/
def Device.admits (device : Device ε) (peer : Option PeerId) : List PeerId :=
  if device.link = .down then peer.toList else []

theorem onConnected_turns (peer : Option PeerId) (handle : LinkHandle) (device : Device ε) :
    Turns device (device.admits peer) (final (onConnected peer handle device)) := by
  by_cases down : device.link = .down
  · have linked : SameWindow device (device.linked peer handle) := ⟨rfl, rfl, rfl, rfl, rfl⟩
    rw [Device.admits, if_pos down]
    exact (onConnected_down peer handle down).turns.same_then linked .refl
  · rw [Device.admits, if_neg down, onConnected_linked peer handle down]
    exact .beside (.refl device) fun _ => rfl

theorem onDisconnected_turns (device : Device ε) :
    Turns device [] (final (onDisconnected device)) := by
  have freed : SameWindow device device.unlinked := ⟨rfl, rfl, rfl, rfl, rfl⟩
  rw [onDisconnected_apply]
  split
  · exact .beside (.refl device) fun _ => rfl
  · exact .beside freed fun _ => rfl
  · split
    · exact putInForce_turns .pairing rfl .refl
    · exact putInForce_turns .sequence rfl .refl

omit [RadioStack ε] in
theorem onBonded_sameWindow (peer : PeerId) (device : Device ε) :
    SameWindow device (final (onBonded peer device)) := by
  have bonded : SameWindow device { device with
      bondedLink := true, ranking := (device.ranking.insert peer).2, unsaved := true } :=
    ⟨rfl, rfl, rfl, rfl, rfl⟩
  rw [onBonded_apply]
  split
  · dsimp only
    split
    · exact bonded.trans (saveRanking_saves _).sameWindow
    · exact ⟨rfl, rfl, rfl, rfl, rfl⟩
  · exact .refl device
  · exact .refl device

theorem onTimedOut_turns (window : Window) (device : Device ε) :
    Turns device [] (final (onTimedOut window device)) := by
  by_cases present : window = device.window
  · subst present
    exact (onTimedOut_expires device).turns
  · rw [onTimedOut_stale present]
    exact .beside (.refl device) fun _ => rfl

omit [RadioStack ε] in
theorem onStorageFull_sameWindow (device : Device ε) :
    SameWindow device (final (onStorageFull device)) := by
  simp only [onStorageFull]
  split <;> exact ⟨rfl, rfl, rfl, rfl, rfl⟩

theorem startSequence_turns (device : Device ε) :
    Turns device [] (final (startSequence device)) := by
  rw [startSequence_apply]
  exact putInForce_turns .sequence rfl .refl

/-- The known peer that an event brings in. -/
def Device.accepts (device : Device ε) : RadioEvent → List PeerId
  | .connected peer _ => device.admits peer
  | _ => []

theorem onEvent_turns (event : RadioEvent) (device : Device ε) :
    Turns device (device.accepts event) (final (onEvent event device)) := by
  cases event with
  | connected peer handle => exact onConnected_turns peer handle device
  | disconnected => exact onDisconnected_turns device
  | bonded peer => exact .beside (onBonded_sameWindow peer device) fun _ => rfl
  | timedOut window => exact onTimedOut_turns window device
  | storageFull => exact .beside (onStorageFull_sameWindow device) fun _ => rfl
  | bondsErased => exact startSequence_turns device

theorem onRequest_turns (request : Request) (device : Device ε) :
    Turns device [] (final (onRequest request device)) := by
  cases request with
  | moveCursor movement =>
    refine .beside ?_ fun _ => rfl
    rw [onRequest_moveCursor]
    split
    · exact (ask_asks _ device).sameWindow
    · exact .refl device
    · exact .refl device
  | pairingWindow =>
    rw [onRequest_pairingWindow]
    exact putInForce_turns .pairing rfl .refl
  | eraseBonds => exact .beside ⟨rfl, rfl, rfl, rfl, rfl⟩ fun _ => rfl
  | disconnect => exact .beside (dropLink_sameWindow device) fun _ => rfl

omit [RadioStack ε] [RecordStore ε] in
/-- Two operations beside the window, the one after the other. -/
theorem SameWindow.bind {first rest : ControlM ε Unit}
    (same : SameWindow device (final (first device)))
    (continues : ∀ next, SameWindow next (final (rest next))) :
    SameWindow device (final ((first >>= fun _ => rest) device)) :=
  final_bind (SameWindow device) same fun next middle => middle.trans (continues next)

omit [RecordStore ε] in
theorem eraseWhenDown_sameWindow (device : Device ε) :
    SameWindow device (final (eraseWhenDown device)) := by
  have erases := eraseWhenDown_erases device
  generalize eraseWhenDown device = result at erases
  cases erases <;> exact ⟨rfl, rfl, rfl, rfl, rfl⟩

theorem tick_sameWindow (device : Device ε) : SameWindow device (final (tick device)) := by
  -- A recorded fault is all that such a tick returns.
  cases recorded : device.fault with
  | some fault =>
    rw [tick_fault recorded]
    exact ⟨rfl, rfl, rfl, rfl, rfl⟩
  | none =>
    rw [tick_apply recorded]
    have reconciled : SameWindow device device.reconciled := ⟨rfl, rfl, rfl, rfl, rfl⟩
    exact .bind (reconciled.trans (reconcile_asks device).sameWindow) fun reconciled =>
      .bind (eraseWhenDown_sameWindow reconciled) fun erased => (saveRanking_saves erased).sameWindow

theorem restored_calls (device : Device ε) : Calls device.env device.restored.env := by
  rw [Device.env_restored]
  exact Calls.refl.read _ _

theorem start_turns (device : Device ε) : Turns device [] (final (start device)) := by
  have opened : Turns device [] (final (putInForce device.restored.pruned.forSequence)) :=
    putInForce_turns .sequence rfl (restored_calls device)
  rw [start_apply, bind_apply]
  generalize putInForce device.restored.pruned.forSequence = result at opened
  cases result with
  | ok value next =>
    have saves := saveRanking_saves next
    exact opened.then_same saves.sameWindow saves.calls
  | error fault next => exact opened

theorem Rings.turns {last : Device ε} (rings : Rings device last) : Turns device [] last := by
  cases rings with
  | ignored quiet => exact .beside (.refl device) fun _ => rfl
  | closed mode phase closes ok =>
    have turns := closes.turns
    rw [ok] at turns
    exact turns
  -- The fault is recorded beside the window.
  | failed mode phase closes error =>
    have turns := closes.turns
    rw [error] at turns
    exact turns.then_same ⟨rfl, rfl, rfl, rfl, rfl⟩ .refl

end Operations

end Turns

end BondedMouse
