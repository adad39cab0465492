import BondedMouse.Proofs.Controller.Turns
import BondedMouse.Proofs.Radio.Registry
import BondedMouse.Proofs.Reconnect.Sequence
import BondedMouse.Proofs.Session.Runs
import BondedMouse.Storage.Cache

/-! # Coherent windows

Mode, phase, target, whitelist and profile are changed by different operations, which
may stop at any request.  They still belong together: a scan is for the registry less
the peers that were accepted since, a directed window for the target of the sequence,
and a pairing window for nobody in particular.

What the registry held when a window was opened, and who was accepted since, is not in
the device.  A `WindowRecord` keeps it along a run: a window that opens begins a new
record, a central that is accepted joins it.
-/

namespace BondedMouse

variable {ε : Type}

/-! ## Records of windows -/

/-- What a run knows of the window in force. -/
structure WindowRecord where
  /-- The first peers of the registry, as it was read when the window was opened. -/
  registry : List PeerId
  /-- The known peers that were accepted since, in the order in which they came. -/
  accepted : List PeerId

/-- The record of a window that has just been opened. -/
def WindowRecord.opened [RadioStack ε] (reading : ε) : WindowRecord :=
  ⟨Registry.whitelist reading, []⟩

/-- Mode, phase, target, whitelist and profile of the window belong together. -/
structure Coherent (record : WindowRecord) (device : Device ε) : Prop where
  scan : device.mode = .scan →
    device.sequence.phase = .scanning ∧ device.profile = .scan ∧
      device.whitelist = record.registry.filter (· ∉ record.accepted)
  directed : device.mode = .directed →
    device.sequence.phase = .connection ∧ device.profile = .directed ∧
      ∃ peer, device.sequence.target? = some peer ∧ device.whitelist = [peer]
  anyBonded : device.mode = .anyBonded →
    device.whitelist ≠ [] ∧ device.whitelist = record.registry ∧ device.profile = .scan
  pairing : device.mode = .pairing → device.whitelist = [] ∧ device.profile = .pairing

namespace Coherent

theorem of_same {record : WindowRecord} {device other : Device ε} (coherent : Coherent record device)
    (same : SameWindow device other) : Coherent record other where
  scan := by
    rw [same.mode, same.sequence, same.profile, same.whitelist]
    exact coherent.scan
  directed := by
    rw [same.mode, same.sequence, same.profile, same.whitelist]
    exact coherent.directed
  anyBonded := by
    rw [same.mode, same.profile, same.whitelist]
    exact coherent.anyBonded
  pairing := by
    rw [same.mode, same.profile, same.whitelist]
    exact coherent.pairing

/-- Outside of scans it does not matter who was accepted. -/
theorem accept {record : WindowRecord} {device : Device ε} (coherent : Coherent record device)
    (quiet : device.mode ≠ .scan) (accepted : List PeerId) :
    Coherent ⟨record.registry, accepted⟩ device where
  scan := fun mode => absurd mode quiet
  directed := coherent.directed
  anyBonded := coherent.anyBonded
  pairing := coherent.pairing

theorem of_idle {device : Device ε} (idle : device.mode = .idle) (record : WindowRecord) :
    Coherent record device where
  scan := fun mode => by simp [idle] at mode
  directed := fun mode => by simp [idle] at mode
  anyBonded := fun mode => by simp [idle] at mode
  pairing := fun mode => by simp [idle] at mode

/-- A detected peer is off the whitelist as it is accepted. -/
theorem detect {record : WindowRecord} {device after : Device ε} {peer : PeerId}
    (coherent : Coherent record device) (distinct : record.registry.Nodup)
    (scan : device.mode = .scan) (mode : after.mode = .scan)
    (phase : after.sequence.phase = device.sequence.phase)
    (profile : after.profile = device.profile)
    (whitelist : after.whitelist = device.whitelist.erase peer) :
    Coherent ⟨record.registry, record.accepted ++ [peer]⟩ after := by
  obtain ⟨scanning, usual, listed⟩ := coherent.scan scan
  refine ⟨fun _ => ⟨phase.trans scanning, profile.trans usual, ?_⟩, ?_, ?_, ?_⟩
  -- Striking the first occurrence is filtering, since the registry has no repeats.
  · have unlisted := distinct.filter fun peer => decide (peer ∉ record.accepted)
    rw [whitelist, listed, List.Nodup.erase_eq_filter unlisted, List.filter_filter]
    apply List.filter_congr
    intro other member
    by_cases same : other = peer
    · simp [same]
    · simp [same]
  · exact fun other => by simp [mode] at other
  · exact fun other => by simp [mode] at other
  · exact fun other => by simp [mode] at other

/-! ## Described windows are coherent -/

theorem forPairing (device : Device ε) (record : WindowRecord) :
    Coherent record device.forPairing where
  scan := nofun
  directed := nofun
  anyBonded := nofun
  pairing := fun _ => ⟨rfl, rfl⟩

theorem forPeer {device : Device ε} {peer : PeerId}
    (phase : device.sequence.phase = .connection) (target : device.sequence.target? = some peer)
    (record : WindowRecord) : Coherent record (device.forPeer peer) where
  scan := nofun
  directed := fun _ => ⟨phase, rfl, peer, target, rfl⟩
  anyBonded := nofun
  pairing := nofun

section Registry

variable [RadioStack ε]

theorem forScan (device : Device ε) : Coherent (.opened device.env) device.forScan := by
  unfold Device.forScan
  dsimp only
  split
  · exact .forPairing _ _
  · refine ⟨fun _ => ⟨rfl, rfl, ?_⟩, nofun, nofun, nofun⟩
    -- Nobody was accepted yet, so nobody is filtered out.
    exact (List.filter_eq_self.2 fun peer member => by simp [WindowRecord.opened]).symm

theorem forAnyBonded (device : Device ε) : Coherent (.opened device.env) device.forAnyBonded := by
  unfold Device.forAnyBonded
  dsimp only
  split
  · exact .forPairing _ _
  · next filled => exact ⟨nofun, nofun, fun _ => ⟨by simpa using filled, rfl, rfl⟩, nofun⟩

theorem forTargets (device : Device ε) : Coherent (.opened device.env) device.forTargets := by
  unfold Device.forTargets
  dsimp only
  split
  · next first =>
    obtain ⟨phase, target⟩ := Sequence.target?_closeScan first
    exact .forPeer phase target _
  · exact forScan { device with sequence := device.sequence.closeScan.2 }

theorem forNext {device : Device ε} (phase : device.sequence.phase = .connection) :
    Coherent (.opened device.env) device.forNext := by
  unfold Device.forNext
  dsimp only
  split
  · next next =>
    obtain ⟨phase, target⟩ := Sequence.target?_turn phase next
    exact .forPeer phase target _
  · exact forScan { device with sequence := device.sequence.turn.2 }
  · exact forAnyBonded { device with sequence := device.sequence.turn.2 }

theorem forSequence (device : Device ε) : Coherent (.opened device.env) device.forSequence :=
  forScan { device with sequence := .fresh }

end Registry

end Coherent

/-! ## Records along an operation -/

section Records

variable [RadioStack ε] [RecordStore ε]

omit [RecordStore ε] in
theorem Opens.coherent {middle described : Device ε} (opens : Opens middle described) :
    Coherent (.opened middle.env) described := by
  cases opens with
  | rest => exact .of_idle rfl _
  | pairing => exact .forPairing _ _
  | targets => exact .forTargets _
  | next phase => exact .forNext phase
  | sequence => exact .forSequence _

/-- The record of the window in force after an operation that accepted some peers.  The
registry counts as it was read on the way to the new window. -/
inductive WindowRecord.Follows (accepted : List PeerId) (before after : Device ε)
    (record : WindowRecord) : WindowRecord → Prop
  | opened (reading : ε) (numbered : after.window ≠ before.window)
      (first : Calls before.env reading) (rest : Calls reading after.env) :
      Follows accepted before after record (.opened reading)
  | kept (same : after.window = before.window) :
      Follows accepted before after record ⟨record.registry, record.accepted ++ accepted⟩

/-- After the operation there is a record again with which the window is coherent. -/
theorem Turns.tracked {record : WindowRecord} {accepted : List PeerId} {before after : Device ε}
    (unrepeated : ∀ env : ε, (Registry.whitelist env).Nodup) (coherent : Coherent record before)
    (distinct : record.registry.Nodup) (turns : Turns before accepted after) :
    ∃ next, record.Follows accepted before after next ∧ Coherent next after ∧
      next.registry.Nodup := by
  cases turns with
  | beside same quiet =>
    refine ⟨_, .kept same.window, ?_, distinct⟩
    -- In a scan nobody was accepted beside the window; elsewhere it does not matter.
    by_cases scan : before.mode = .scan
    · rw [quiet ⟨.inl scan, (coherent.scan scan).1⟩, List.append_nil]
      exact coherent.of_same same
    · exact (coherent.accept scan _).of_same same
  | detected scans single mode profile window whitelist phase =>
    -- In a directed window the phase is another, so it is the scan that detected the peer.
    obtain ⟨scan | directed, scanning⟩ := scans
    · rw [single]
      exact ⟨_, .kept window,
        coherent.detect distinct scan (mode.trans scan) phase profile whitelist, distinct⟩
    · simp [(coherent.directed directed).1] at scanning
  | @opened middle described opens window first same rest =>
    have numbered : after.window ≠ before.window := by
      rw [same.window, ← window]
      exact opens.numbered
    exact ⟨_, .opened middle.env numbered first (opens.env ▸ rest), opens.coherent.of_same same,
      unrepeated middle.env⟩

/-! ## Records along a run -/

omit [RecordStore ε] in
/-- The known peer that a move brings in. -/
def Move.accepts (device : Device ε) : Move ε → List PeerId
  | .operation (.event event) => device.accepts event
  | .operation _ | .outside _ => []

/-- The moves that the firmware makes: it never sets a mode itself. -/
def Move.Regular : Move ε → Prop
  | .operation (.setMode _ _) => False
  | .operation _ | .outside _ => True

theorem Steps.turns {device last : Device ε} (steps : Steps device last) : Turns device [] last := by
  cases steps with
  | quiet timers => exact .beside ⟨rfl, rfl, rfl, rfl, rfl⟩ fun _ => rfl
  | rung before after rung rings =>
    have turns : Turns device [] rung := rings.turns.same_then ⟨rfl, rfl, rfl, rfl, rfl⟩ .refl
    exact turns.then_same ⟨rfl, rfl, rfl, rfl, rfl⟩ .refl

theorem Session.moved_turns {session : Session ε} (wired : session.Wired) {move : Move ε}
    (regular : move.Regular) :
    Turns session.device (move.accepts session.device) (session.moved move).2.device := by
  cases move with
  | outside env => exact .beside ⟨rfl, rfl, rfl, rfl, rfl⟩ fun _ => rfl
  | operation operation =>
    cases operation with
    | setMode mode target => exact regular.elim
    | scanTimeout => exact (Controller.onScanTimer_rings _).turns
    | timerTick => exact .beside ⟨rfl, rfl, rfl, rfl, rfl⟩ fun _ => rfl
    | timerStep => exact (Session.timerStep_steps wired).turns
    | start =>
      rw [Session.moved, Session.perform, Session.control_device]
      exact start_turns _
    | startSequence =>
      rw [Session.moved, Session.perform, Session.control_device]
      exact startSequence_turns _
    | event event =>
      rw [Session.moved, Session.perform, Session.control_device]
      exact onEvent_turns event _
    | request request =>
      rw [Session.moved, Session.perform, Session.control_device]
      exact onRequest_turns request _
    | tick =>
      rw [Session.moved, Session.perform, Session.control_device]
      exact .beside (tick_sameWindow _) fun _ => rfl

/-- The session after a list of moves, whatever became of each. -/
def Session.after (session : Session ε) (moves : List (Move ε)) : Session ε :=
  moves.foldl (fun session move => (session.moved move).2) session

theorem Session.Wired.after {started : Session ε} (wired : started.Wired) (moves : List (Move ε)) :
    (started.after moves).Wired := by
  induction moves generalizing started with
  | nil => exact wired
  | cons move moves ih => exact ih (wired.moved move)

/-- Along a list of moves the first record is followed, move by move, to the last. -/
inductive Chronicle : Session ε → WindowRecord → List (Move ε) → WindowRecord → Prop
  | done {session : Session ε} {record : WindowRecord} : Chronicle session record [] record
  | move {session : Session ε} {record next last : WindowRecord} {move : Move ε}
      {moves : List (Move ε)}
      (follows : record.Follows (move.accepts session.device) session.device
        (session.moved move).2.device next)
      (rest : Chronicle (session.moved move).2 next moves last) :
      Chronicle session record (move :: moves) last

theorem chronicle_coherent (unrepeated : ∀ env : ε, (Registry.whitelist env).Nodup)
    (moves : List (Move ε)) (regular : ∀ move ∈ moves, move.Regular) {session : Session ε}
    {record : WindowRecord} (wired : session.Wired) (coherent : Coherent record session.device)
    (distinct : record.registry.Nodup) :
    ∃ last, Chronicle session record moves last ∧ Coherent last (session.after moves).device := by
  -- Along the moves session and record change together; coherence carries the induction.
  induction moves generalizing session record with
  | nil => exact ⟨record, .done, coherent⟩
  | cons move moves ih =>
    have turns := Session.moved_turns wired (regular move List.mem_cons_self)
    obtain ⟨next, follows, coherent, distinct⟩ := turns.tracked unrepeated coherent distinct
    obtain ⟨last, chronicle, coherent⟩ :=
      ih (fun move member => regular move (List.mem_cons_of_mem _ member)) (wired.moved move)
        coherent distinct
    exact ⟨last, .move follows chronicle, coherent⟩

/-- Wherever a run has come to, mode, phase, target, whitelist and profile are those of the window
in its record. -/
theorem windows_coherent (unrepeated : ∀ env : ε, (Registry.whitelist env).Nodup)
    {ranking : Ranking} {env : ε} {reserved : Nat} {started : Session ε}
    (powered : Session.powerUp ranking env reserved = .ok started) (moves : List (Move ε))
    (regular : ∀ move ∈ moves, move.Regular) :
    ∃ record, Chronicle started ⟨[], []⟩ moves record ∧
      Coherent record (started.after moves).device := by
  obtain ⟨wired, scanTimer, timers, device⟩ := Session.powerUp_eq_ok powered
  have idle : started.device.mode = .idle := by rw [device]; rfl
  exact chronicle_coherent unrepeated moves regular wired (.of_idle idle _) List.nodup_nil

end Records

/-- The radio unit of a device with one bond, beside an empty record cache. -/
def bondedPlatform : RadioUnit × RecordCache :=
  let identity : Identity := ⟨.replicate 16 1, ⟨.publicDevice, .replicate 6 1⟩⟩
  let bond : Bond := ⟨⟨0, .replicate 8 0⟩, ⟨.replicate 16 0⟩, identity⟩
  let bonds : BondTable := ⟨(Vector.replicate BondTable.capacity none).set 0 (some bond)⟩
  ({ RadioUnit.new .powerOff none with bonds }, .empty)

/-- The bonded peer is detected, has no rank, and the scan goes on without it. -/
def detectionMoves : List (Move (RadioUnit × RecordCache)) :=
  [.operation .start, .operation (.event (.connected (some (BondTable.peerOf 0)) ⟨7⟩))]

theorem windows_coherent_after_detection :
    ((Session.fresh .empty bondedPlatform).after detectionMoves).device.mode = .scan ∧
    ∃ record, Chronicle (Session.fresh .empty bondedPlatform) ⟨[], []⟩ detectionMoves record ∧
      Coherent record ((Session.fresh .empty bondedPlatform).after detectionMoves).device := by
  refine ⟨rfl, windows_coherent RadioUnit.nodup_whitelist (Session.powerUp_fresh _ _) _ ?_⟩
  simp [detectionMoves, Move.Regular]

end BondedMouse
