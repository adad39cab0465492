import BondedMouse.Controller.Events
import BondedMouse.Proofs.Controller.Requests

/-! # How windows are put into force

Opening a window is done in two parts.  The first describes the window and cannot fail:
mode, number, whitelist and profile are set, for a scan also the timer and the directed
sequence.  The second, `putInForce`, talks to the stack and touches nothing but the
link, the flags and the environment.  Each way to open a window is an equation between
the operation and `putInForce` on the described device, so that what a refusal can leave
behind is read off the description.
-/

namespace BondedMouse

variable {ε : Type}

/-! ## The link and the flags -/

/-- A link after the device has asked for it to be dropped. -/
def Link.dropped : Link → Link
  | .up handle => .closing handle
  | .down => .down
  | .closing handle => .closing handle

def Link.dropRequests : Link → List RadioRequest
  | .up handle => [.disconnect handle]
  | .down | .closing _ => []

@[simp] theorem Link.dropped_eq_down_iff {link : Link} : link.dropped = .down ↔ link = .down := by
  cases link <;> simp [dropped]

@[simp] theorem Link.dropped_ne_up (link : Link) (handle : LinkHandle) :
    link.dropped ≠ .up handle := by
  cases link <;> simp [dropped]

namespace Device

def stopRequests (device : Device ε) : List RadioRequest :=
  if device.link = .down ∧ device.running then [.stop] else []

/-- The device with no wish to advertise. -/
def silenced (device : Device ε) : Device ε :=
  { device with wanted := false, running := device.running && device.link ≠ .down }

/-- The device with a wish to advertise, and with the link that is in the way on its way down. -/
def advertised (device : Device ε) : Device ε :=
  { device with
    wanted := true
    running := device.running || device.link = .down
    link := device.link.dropped }

/-- The requests that start advertising, or drop the link that is in the way. -/
def startRequests (device : Device ε) : List RadioRequest :=
  if device.link = .down then
    if device.running then [] else [.start device.profile device.window]
  else
    device.link.dropRequests

/-- The requests that put the described window into force. -/
def openingRequests (device : Device ε) : List RadioRequest :=
  device.stopRequests ++ [.whitelist device.whitelist, .identities device.whitelist] ++
    device.silenced.startRequests

end Device

namespace Controller

variable [RadioStack ε]

theorem dropLink_apply (device : Device ε) :
    dropLink device =
      match device.link with
      | .up handle => ask (.disconnect handle) { device with link := .closing handle }
      | .down | .closing _ => .ok () device := by
  simp only [dropLink, bind_apply, get_apply]
  cases device.link <;> rfl

theorem silence_apply (device : Device ε) :
    silence device =
      if device.link = .down ∧ device.running then stopRadio { device with wanted := false }
      else .ok () { device with wanted := false } := by
  simp only [silence, bind_apply, modify_apply, get_apply]
  split <;> rfl

theorem advertise_apply (device : Device ε) :
    advertise device =
      match device.link with
      | .up _ => dropLink { device with wanted := true }
      | .closing _ => .ok () { device with wanted := true }
      | .down =>
        if device.running then .ok () { device with wanted := true }
        else startRadio { device with wanted := true } := by
  simp only [advertise, bind_apply, modify_apply, get_apply]
  cases device.link with
  | up handle => rfl
  | closing handle => rfl
  | down => cases device.running <;> rfl

theorem dropLink_asks (device : Device ε) :
    Asks device.link.dropRequests device { device with link := device.link.dropped }
      (dropLink device) := by
  rw [dropLink_apply]
  cases link : device.link with
  | up handle => exact ask_asks_of device rfl
  | down => exact .nothing (by rw [Link.dropped, ← link]) rfl
  | closing handle => exact .nothing (by rw [Link.dropped, ← link]) rfl

theorem startRadio_asks (device : Device ε) :
    Asks [.start device.profile device.window] device { device with running := true }
      (startRadio device) :=
  ask_asks_of device rfl

theorem stopRadio_asks (device : Device ε) :
    Asks [.stop] device { device with running := false } (stopRadio device) :=
  ask_asks_of device rfl

theorem silence_asks (device : Device ε) :
    Asks device.stopRequests device device.silenced (silence device) := by
  rw [silence_apply, Device.stopRequests, Device.silenced]
  by_cases runs : device.link = .down ∧ device.running
  · rw [if_pos runs, if_pos runs]
    simp only [runs.1, ne_eq, not_true_eq_false, decide_false, Bool.and_false]
    exact ask_asks_of device rfl
  · rw [if_neg runs, if_neg runs]
    -- If the flag is set here there is a link, and then it is left alone.
    have same : (device.running && decide (device.link ≠ .down)) = device.running := by
      cases running : device.running with
      | false => rfl
      | true => simpa [running] using runs
    exact .nothing (by rw [same]) rfl

theorem advertise_asks (device : Device ε) :
    Asks device.startRequests device device.advertised (advertise device) := by
  rw [advertise_apply, Device.startRequests, Device.advertised]
  cases link : device.link with
  | up handle =>
    simp only [reduceCtorEq, if_false, decide_false, Bool.or_false, dropLink_apply]
    exact ask_asks_of device rfl
  -- A link that is on its way down is not asked for again.
  | closing handle =>
    simp only [reduceCtorEq, if_false, decide_false, Bool.or_false]
    exact .nothing (by rw [Link.dropped, ← link]) rfl
  | down =>
    simp only [if_true, decide_true, Bool.or_true, Link.dropped]
    cases running : device.running with
    | true => exact .nothing (by rw [← link]) rfl
    | false =>
      simp only [Bool.false_eq_true, if_false]
      rw [← link]
      exact ask_asks_of device rfl

theorem sendWhitelist_asks (device : Device ε) :
    Asks [.whitelist device.whitelist, .identities device.whitelist] device device
      (sendWhitelist device) := by
  -- The whitelist is read once more for the second request, and is still the same.
  change Asks _ _ _ ((ask (.whitelist device.whitelist) >>= fun _ => do
    ask (.identities (← get).whitelist)) device)
  exact Asks.bind device (ask_asks _ device)
    (fun env => ask_asks (.identities device.whitelist) { device with env }) fun _ _ _ _ => rfl

/-- Puts the window into force that the device describes. -/
def putInForce : ControlM ε Unit := do
  silence
  sendWhitelist
  advertise

/-- A window that is put into force replaces the one that runs. -/
theorem putInForce_asks (device : Device ε) :
    Asks device.openingRequests device device.silenced.advertised (putInForce device) := by
  unfold Device.openingRequests
  rw [List.append_assoc]
  -- What is known of the device between the parts is all but its environment.
  refine Asks.bind device.silenced (silence_asks device) (fun env => ?_)
    fun _ _ _ _ => rfl
  refine Asks.bind { device.silenced with env }
    (sendWhitelist_asks { device.silenced with env }) (fun env => ?_) fun _ _ _ _ => rfl
  exact advertise_asks { device.silenced with env }

end Controller

/-! ## Described windows -/

namespace Device

def counted (device : Device ε) : Device ε :=
  { device with window := device.window.next }

def forRest (device : Device ε) : Device ε :=
  { device.counted with mode := .idle }

def forPairing (device : Device ε) : Device ε :=
  { device.counted with whitelist := [], profile := .pairing, mode := .pairing }

/-- The window in which one peer may connect. -/
def forPeer (device : Device ε) (peer : PeerId) : Device ε :=
  { device.counted with whitelist := [peer], profile := .directed, mode := .directed }

variable [RadioStack ε]

/-- The scan window, or the pairing window if the registry is empty. -/
def forScan (device : Device ε) : Device ε :=
  let read := { device.counted with whitelist := Registry.whitelist device.env }
  if read.whitelist.isEmpty then read.forPairing
  else { read with
    sequence := device.sequence.restart
    timers := device.timers.arm device.scanTimer Controller.scanTime
    profile := .scan
    mode := .scan }

/-- The window for every bonded peer, or the pairing window if the registry is empty. -/
def forAnyBonded (device : Device ε) : Device ε :=
  let read := { device.counted with whitelist := Registry.whitelist device.env }
  if read.whitelist.isEmpty then read.forPairing
  else { read with profile := .scan, mode := .anyBonded }

/-- The window that follows a scan. -/
def forTargets (device : Device ε) : Device ε :=
  let (first, sequence) := device.sequence.closeScan
  match first with
  | some peer => { device with sequence }.forPeer peer
  | none => { device with sequence }.forScan

/-- The window that follows a directed one that nobody took. -/
def forNext (device : Device ε) : Device ε :=
  let (turn, sequence) := device.sequence.turn
  match turn with
  | .next peer => { device with sequence }.forPeer peer
  | .scanAgain => { device with sequence }.forScan
  | .giveUp => { device with sequence }.forAnyBonded

/-- The first window of a new directed sequence. -/
def forSequence (device : Device ε) : Device ε :=
  { device with sequence := .fresh }.forScan

end Device

namespace Controller

variable [RadioStack ε]

theorem rest_apply (device : Device ε) : rest device = silence device.forRest := rfl

theorem openPairing_apply (device : Device ε) :
    openPairing device = putInForce device.forPairing := rfl

theorem openDirected_apply (peer : PeerId) (device : Device ε) :
    openDirected peer device = putInForce (device.forPeer peer) := rfl

theorem openScan_apply (device : Device ε) : openScan device = putInForce device.forScan := by
  unfold Device.forScan
  simp only [openScan, countWindow, whitelistRegistry, bind_apply, modify_apply, get_apply]
  split <;> rfl

theorem openAnyBonded_apply (device : Device ε) :
    openAnyBonded device = putInForce device.forAnyBonded := by
  unfold Device.forAnyBonded
  simp only [openAnyBonded, countWindow, whitelistRegistry, bind_apply, modify_apply, get_apply]
  split <;> rfl

theorem startSequence_apply (device : Device ε) :
    startSequence device = putInForce device.forSequence := by
  rw [Device.forSequence, ← openScan_apply]
  rfl

theorem turnToTargets_apply (device : Device ε) :
    turnToTargets device = putInForce device.forTargets := by
  unfold Device.forTargets
  simp only [turnToTargets, bind_apply, modify_apply, get_apply]
  cases device.sequence.closeScan.1 with
  | some peer => rfl
  | none => exact openScan_apply _

theorem turnToNext_apply (device : Device ε) :
    turnToNext device = putInForce device.forNext := by
  unfold Device.forNext
  simp only [turnToNext, bind_apply, modify_apply, get_apply]
  cases device.sequence.turn.1 with
  | next peer => rfl
  | scanAgain => exact openScan_apply _
  | giveUp => exact openAnyBonded_apply _

end Controller

/-! ## What a description leaves alone -/

theorem Window.next_ne (window : Window) : window.next ≠ window := by
  obtain ⟨number⟩ := window
  simp [next]

theorem Window.next_next_ne (window : Window) : window.next.next ≠ window := by
  obtain ⟨number⟩ := window
  simp [next, UInt16.add_assoc]

theorem Window.next_next_next_ne (window : Window) : window.next.next.next ≠ window := by
  obtain ⟨number⟩ := window
  simp [next, UInt16.add_assoc]

/-- The profile of a mode's windows. -/
def Mode.profile? : Mode → Option Profile
  | .idle => none
  | .pairing => some .pairing
  | .scan | .anyBonded => some .scan
  | .directed => some .directed

/-- The second device describes a new window of the first, and differs in nothing else. -/
inductive Describes (device : Device ε) : Device ε → Prop
  | intro {mode : Mode} {profile : Profile} {window : Window} {whitelist : List PeerId}
      {sequence : Sequence} {timers : TimerPool} (profiled : mode.profile? = some profile)
      (numbered : window ≠ device.window)
      (scanning : mode = .scan → ∃ earlier : Sequence, sequence = earlier.restart) :
      Describes device { device with mode, profile, window, whitelist, sequence, timers }

namespace Describes

section Fields

variable {device described : Device ε}

theorem profiled (describes : Describes device described) :
    described.mode.profile? = some described.profile := by
  cases describes with
  | intro profiled numbered scanning => exact profiled

theorem advertises (describes : Describes device described) : described.mode ≠ .idle := by
  intro idle
  have profiled := describes.profiled
  simp [idle, Mode.profile?] at profiled

theorem numbered (describes : Describes device described) : described.window ≠ device.window := by
  cases describes with
  | intro profiled numbered scanning => exact numbered

theorem restarts (describes : Describes device described) (scan : described.mode = .scan) :
    ∃ earlier : Sequence, described.sequence = earlier.restart := by
  cases describes with
  | intro profiled numbered scanning => exact scanning scan

theorem env (describes : Describes device described) : described.env = device.env := by
  cases describes
  rfl

theorem link (describes : Describes device described) : described.link = device.link := by
  cases describes
  rfl

theorem running (describes : Describes device described) : described.running = device.running := by
  cases describes
  rfl

end Fields

theorem of_sequence {device described : Device ε} {sequence : Sequence}
    (describes : Describes { device with sequence } described) : Describes device described := by
  cases describes with
  | intro profiled numbered scanning => exact .intro profiled numbered scanning

theorem pairing (device : Device ε) : Describes device device.forPairing :=
  .intro rfl device.window.next_ne nofun

theorem peer (device : Device ε) (peer : PeerId) : Describes device (device.forPeer peer) :=
  .intro rfl device.window.next_ne nofun

variable [RadioStack ε]

theorem scan (device : Device ε) : Describes device device.forScan := by
  unfold Device.forScan
  dsimp only
  split
  -- A scan that turns into a pairing window has taken two numbers.
  · exact .intro rfl device.window.next_next_ne nofun
  · exact .intro rfl device.window.next_ne fun _ => ⟨_, rfl⟩

theorem counted_scan (device : Device ε) : Describes device device.counted.forScan := by
  unfold Device.forScan
  dsimp only
  split
  · exact .intro rfl device.window.next_next_next_ne nofun
  · exact .intro rfl device.window.next_next_ne fun _ => ⟨_, rfl⟩

theorem anyBonded (device : Device ε) : Describes device device.forAnyBonded := by
  unfold Device.forAnyBonded
  dsimp only
  split
  · exact .intro rfl device.window.next_next_ne nofun
  · exact .intro rfl device.window.next_ne nofun

theorem targets (device : Device ε) : Describes device device.forTargets := by
  unfold Device.forTargets
  dsimp only
  split
  · exact .of_sequence (.peer _ _)
  · exact .of_sequence (.scan _)

theorem next (device : Device ε) : Describes device device.forNext := by
  unfold Device.forNext
  dsimp only
  split
  · exact .of_sequence (.peer _ _)
  · exact .of_sequence (.scan _)
  · exact .of_sequence (.anyBonded _)

theorem sequence (device : Device ε) : Describes device device.forSequence :=
  .of_sequence (.scan _)

end Describes

/-- Every mode but the idle one is entered by putting a window into force. -/
theorem Controller.setMode_opens [RadioStack ε] {mode : Mode} (target : Option PeerId)
    (device : Device ε) (advertises : mode ≠ .idle) :
    ∃ described, Describes device described ∧ setMode mode target device = putInForce described := by
  cases mode with
  | idle => exact absurd rfl advertises
  | pairing => exact ⟨_, .pairing device, openPairing_apply device⟩
  | scan => exact ⟨_, .scan device, openScan_apply device⟩
  | anyBonded => exact ⟨_, .anyBonded device, openAnyBonded_apply device⟩
  | directed =>
    cases target with
    | some peer => exact ⟨_, .peer device peer, openDirected_apply peer device⟩
    -- Without a target the number of the directed window is lost.
    | none => exact ⟨_, .counted_scan device, openScan_apply device.counted⟩

end BondedMouse
