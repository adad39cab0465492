import BondedMouse.Proofs.Controller.Saving
import BondedMouse.Proofs.Controller.Turns

/-! # Properties of the peers that a device keeps

A device has its peers in the ranking, among the detected ones and in the whitelist.
Once it has started, a property of these holds on if it is kept by the few changes that
events, requests and the end of the scan timer are made of: calls, descriptions of
windows, detections and bonds.  A tick is not among them, since it may erase the bonds.
-/

namespace BondedMouse

variable {ε : Type} [RadioStack ε] [RecordStore ε]

/-- The peers and the order to erase their bonds are the same on both devices, and no call in
between erased the bonds. -/
structure SamePeers (device after : Device ε) : Prop where
  ranking : after.ranking = device.ranking
  sequence : after.sequence = device.sequence
  whitelist : after.whitelist = device.whitelist
  erasePending : after.erasePending = device.erasePending
  calls : Calls device.env after.env

omit [RecordStore ε] in
theorem Opens.erasePending {middle described : Device ε} (opens : Opens middle described) :
    described.erasePending = middle.erasePending := by
  obtain rfl | describes := opens.describes
  · rfl
  · cases describes
    rfl

/-- A property that is kept by all that a started device does but for its ticks, as long as only
some peers are bonded. -/
structure Upheld (bonded : PeerId → Prop) (holds : Device ε → Prop) : Prop where
  same : ∀ {device after}, holds device → SamePeers device after → holds after
  opens : ∀ {middle described}, holds middle → Opens middle described → holds described
  struck : ∀ {device} (peer : PeerId), holds device → holds (device.struck peer)
  noted : ∀ {device} (peer : PeerId), holds device → holds (device.noted peer)
  inserted : ∀ {device peer}, bonded peer → holds device →
    holds { device with ranking := (device.ranking.insert peer).2 }

namespace Upheld

open Controller

variable {bonded : PeerId → Prop} {holds : Device ε → Prop} {device middle described : Device ε}
  {result : EStateM.Result Fault (Device ε) Unit}

theorem asks (upheld : Upheld bonded holds) {requests : List RadioRequest} {target : Device ε}
    (asks : Asks requests device target result) (keeps : .forgetBonds ∉ requests)
    (held : holds { target with env := device.env }) : holds (final result) := by
  cases asks with
  | answered answers => exact upheld.same held ⟨rfl, rfl, rfl, rfl, answers.calls keeps⟩
  | refused refuses => exact upheld.same held ⟨rfl, rfl, rfl, rfl, refuses.calls keeps⟩

theorem putInForce (upheld : Upheld bonded holds) (held : holds described) :
    holds (final (putInForce described)) :=
  upheld.asks (putInForce_asks described) described.forgetBonds_not_mem_openingRequests
    (upheld.same held ⟨rfl, rfl, rfl, rfl, .refl⟩)

theorem opened (upheld : Upheld bonded holds) (opens : Opens middle described)
    (held : holds middle) : holds (final (Controller.putInForce described)) :=
  upheld.putInForce (upheld.opens held opens)

theorem saved (upheld : Upheld bonded holds) (held : holds device) :
    holds (final (saveRanking device)) := by
  have saves := saveRanking_saves device
  generalize saveRanking device = result at saves
  cases saves with
  | spared => exact held
  | done => exact upheld.same held ⟨rfl, rfl, rfl, rfl, Calls.refl.write _ _⟩
  | failed => exact upheld.same held ⟨rfl, rfl, rfl, rfl, Calls.refl.write _ _⟩

theorem closes (upheld : Upheld bonded holds) (held : holds device)
    (closes : Closes device result) : holds (final result) := by
  have keeps := device.forgetBonds_not_mem_stopRequests
  cases closes with
  | refused refuses => exact upheld.same held ⟨rfl, rfl, rfl, rfl, refuses.calls keeps⟩
  | turned answers =>
    exact upheld.opened .targets (upheld.same held ⟨rfl, rfl, rfl, rfl, answers.calls keeps⟩)

theorem detects (upheld : Upheld bonded holds) {peer : PeerId} (held : holds device)
    (detects : Detects device peer result) : holds (final result) := by
  have keeps := device.forgetBonds_not_mem_detectRequests peer
  have struck := upheld.struck peer held
  cases detects with
  | refused refuses => exact upheld.same struck ⟨rfl, rfl, rfl, rfl, refuses.calls keeps⟩
  | noted answers more =>
    exact upheld.same (upheld.noted peer struck) ⟨rfl, rfl, rfl, rfl, answers.calls keeps⟩
  | complete answers all =>
    exact upheld.opened .targets
      (upheld.same (upheld.noted peer struck) ⟨rfl, rfl, rfl, rfl, answers.calls keeps⟩)

theorem dropLink (upheld : Upheld bonded holds) (held : holds device) :
    holds (final (dropLink device)) := by
  have keeps : .forgetBonds ∉ device.link.dropRequests := by
    cases device.link <;> simp [Link.dropRequests]
  exact upheld.asks (dropLink_asks device) keeps
    (upheld.same held ⟨rfl, rfl, rfl, rfl, .refl⟩)

theorem receives (upheld : Upheld bonded holds) {peer : Option PeerId} (held : holds device)
    (receives : Receives device peer result) : holds (final result) := by
  cases receives with
  | ignored idle => exact held
  | paired mode => exact upheld.same held ⟨rfl, rfl, rfl, rfl, .refl⟩
  | kept meant => exact upheld.same held ⟨rfl, rfl, rfl, rfl, .refl⟩
  | dropped advertises stranger => exact upheld.dropLink held
  | detected scans detects => exact upheld.detects held detects

theorem expires (upheld : Upheld bonded holds) (held : holds device)
    (expires : Expires device result) : holds (final result) := by
  have stopped : holds device.stopped := upheld.same held ⟨rfl, rfl, rfl, rfl, .refl⟩
  cases expires with
  | ignored undirected closed => exact stopped
  | rested mode => exact upheld.same (upheld.opens stopped .rest) ⟨rfl, rfl, rfl, rfl, .refl⟩
  | scanned mode phase => exact upheld.opened .targets stopped
  | offered mode phase => exact upheld.opened (.next phase) stopped

theorem rings (upheld : Upheld bonded holds) {last : Device ε} (held : holds device)
    (rings : Rings device last) : holds last := by
  cases rings with
  | ignored quiet => exact held
  | closed mode phase closes ok =>
    have closed := upheld.closes held closes
    rwa [ok] at closed
  | failed mode phase closes error =>
    have closed := upheld.closes held closes
    rw [error] at closed
    exact upheld.same closed ⟨rfl, rfl, rfl, rfl, .refl⟩

/-! ## Events and requests -/

theorem connected (upheld : Upheld bonded holds) (peer : Option PeerId) (handle : LinkHandle)
    (held : holds device) : holds (final (onConnected peer handle device)) := by
  by_cases down : device.link = .down
  · have linked : holds (device.linked peer handle) :=
      upheld.same held ⟨rfl, rfl, rfl, rfl, .refl⟩
    exact upheld.receives linked (onConnected_down peer handle down)
  · rw [onConnected_linked peer handle down]
    exact held

theorem disconnected (upheld : Upheld bonded holds) (held : holds device) :
    holds (final (onDisconnected device)) := by
  have freed : holds device.unlinked := upheld.same held ⟨rfl, rfl, rfl, rfl, .refl⟩
  rw [onDisconnected_apply]
  split
  · exact held
  · exact freed
  · split
    · exact upheld.opened .pairing freed
    · exact upheld.opened .sequence freed

theorem secured (upheld : Upheld bonded holds) {peer : PeerId}
    (bonds : ∀ handle, device.link = .up handle → bonded peer) (held : holds device) :
    holds (final (onBonded peer device)) := by
  rw [onBonded_apply]
  split
  · next handle up =>
    have inserted := upheld.inserted (bonds handle up) held
    dsimp only
    split
    · exact upheld.saved (upheld.same inserted ⟨rfl, rfl, rfl, rfl, .refl⟩)
    · exact upheld.same inserted ⟨rfl, rfl, rfl, rfl, .refl⟩
  · exact held
  · exact held

theorem timedOut (upheld : Upheld bonded holds) (window : Window) (held : holds device) :
    holds (final (onTimedOut window device)) := by
  by_cases present : window = device.window
  · subst present
    exact upheld.expires held (onTimedOut_expires device)
  · rw [onTimedOut_stale present]
    exact held

theorem sequenceStarted (upheld : Upheld bonded holds) (held : holds device) :
    holds (final (startSequence device)) := by
  rw [startSequence_apply]
  exact upheld.opened .sequence held

theorem event (upheld : Upheld bonded holds) {event : RadioEvent}
    (bonds : ∀ peer handle, event = .bonded peer → device.link = .up handle → bonded peer)
    (held : holds device) : holds (final (onEvent event device)) := by
  cases event with
  | connected peer handle => exact upheld.connected peer handle held
  | disconnected => exact upheld.disconnected held
  | bonded peer => exact upheld.secured (fun handle => bonds peer handle rfl) held
  | timedOut window => exact upheld.timedOut window held
  | storageFull =>
    rw [onEvent, final_onStorageFull]
    exact upheld.same held ⟨rfl, rfl, rfl, rfl, Calls.refl.reclaim⟩
  | bondsErased => exact upheld.sequenceStarted held

/-- The request to erase the bonds is not among them, for it is an order to the ticks. -/
theorem request (upheld : Upheld bonded holds) {request : Request} (other : request ≠ .eraseBonds)
    (held : holds device) : holds (final (onRequest request device)) := by
  cases request with
  | moveCursor movement =>
    rw [onRequest_moveCursor]
    split
    · exact upheld.asks (ask_asks _ device) (by simp) held
    · exact held
    · exact held
  | pairingWindow => exact upheld.opened .pairing held
  | eraseBonds => exact absurd rfl other
  | disconnect => exact upheld.dropLink held

end Upheld

end BondedMouse
