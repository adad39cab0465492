import BondedMouse.Proofs.Controller.Events

/-! # Twins

Two devices are twins if they differ in nothing but the save of the ranking: whether it
is due, how often it has failed, and what the store behind it does.  What an operation
does to twins leaves twins behind, and the stack is asked for the same.  So trouble with
the store shows in what is returned, and nowhere else.
-/

namespace BondedMouse

variable {ε₁ ε₂ : Type}

/-! ## Twin environments -/

section Stores

variable {ε : Type} [RecordStore ε]

/-- A call to the record store. -/
inductive Stores (env : ε) : ε → Prop
  | read (key : UInt16) (room : Nat) : Stores env (RecordStore.read key room env).2
  | write (key : UInt16) (bytes : List UInt8) : Stores env (RecordStore.write key bytes env).2
  | reclaim : Stores env (RecordStore.reclaim env).2

end Stores

/-- A relation between environments that does not see their stores: the stacks answer alike, and a
call to one of the stores does not show. -/
structure StoreBlind [RadioStack ε₁] [RadioStack ε₂] [RecordStore ε₁] [RecordStore ε₂]
    (alike : ε₁ → ε₂ → Prop) : Prop where
  answers {left : ε₁} {right : ε₂} (same : alike left right) (request : RadioRequest) :
    (RadioStack.request request left).1 = (RadioStack.request request right).1
  asked {left : ε₁} {right : ε₂} (same : alike left right) (request : RadioRequest) :
    alike (RadioStack.request request left).2 (RadioStack.request request right).2
  registry {left : ε₁} {right : ε₂} (same : alike left right) :
    RadioStack.nextPeer left = RadioStack.nextPeer right
  left {left after : ε₁} {right : ε₂} (same : alike left right) (stores : Stores left after) :
    alike after right
  right {left : ε₁} {right after : ε₂} (same : alike left right) (stores : Stores right after) :
    alike left after

/-! ## Twin devices -/

/-- The devices differ in the state of their saves and in their environments, which are alike. -/
structure Twins (alike : ε₁ → ε₂ → Prop) (left : Device ε₁) (right : Device ε₂) : Prop where
  mode : left.mode = right.mode
  wanted : left.wanted = right.wanted
  running : left.running = right.running
  bondedLink : left.bondedLink = right.bondedLink
  erasePending : left.erasePending = right.erasePending
  profile : left.profile = right.profile
  window : left.window = right.window
  link : left.link = right.link
  whitelist : left.whitelist = right.whitelist
  sequence : left.sequence = right.sequence
  fault : left.fault = right.fault
  ranking : left.ranking = right.ranking
  scanTimer : left.scanTimer = right.scanTimer
  timers : left.timers = right.timers
  env : alike left.env right.env

/-- What an operation returns. -/
def Controller.returned {ε : Type} : EStateM.Result Fault (Device ε) Unit → Except Fault Unit
  | .ok () _ => .ok ()
  | .error fault _ => .error fault

/-- The return value with a fault of the store counted as success. -/
def Fault.forgiven : Except Fault Unit → Except Fault Unit
  | .error (.storage _) => .ok ()
  | returned => returned

variable {alike : ε₁ → ε₂ → Prop} {left : Device ε₁} {right : Device ε₂}

open Controller

/-- Both operations return the same and leave twins behind. -/
inductive Matches (alike : ε₁ → ε₂ → Prop) :
    EStateM.Result Fault (Device ε₁) Unit → EStateM.Result Fault (Device ε₂) Unit → Prop
  | ok {left : Device ε₁} {right : Device ε₂} (twins : Twins alike left right) :
      Matches alike (.ok () left) (.ok () right)
  | error {fault : Fault} {left : Device ε₁} {right : Device ε₂} (twins : Twins alike left right) :
      Matches alike (.error fault left) (.error fault right)

/-- Both operations return the same but for faults of the store, and leave twins behind. -/
structure Resembles (alike : ε₁ → ε₂ → Prop) (result : EStateM.Result Fault (Device ε₁) Unit)
    (other : EStateM.Result Fault (Device ε₂) Unit) : Prop where
  forgiven : Fault.forgiven (returned result) = Fault.forgiven (returned other)
  twins : Twins alike (final result) (final other)

/-- Two conditionals are related if their tests agree and their branches are related. -/
theorem ite_related {α β : Type} {related : α → β → Prop} {p q : Prop} [Decidable p] [Decidable q]
    {yes no : α} {yes' no' : β} (same : p ↔ q) (whenTrue : related yes yes')
    (whenFalse : related no no') : related (if p then yes else no) (if q then yes' else no') := by
  by_cases holds : p
  · rw [if_pos holds, if_pos (same.1 holds)]
    exact whenTrue
  · rw [if_neg holds, if_neg (mt same.2 holds)]
    exact whenFalse

section Sequels

variable {first rest : ControlM ε₁ Unit} {other more : ControlM ε₂ Unit}

theorem Matches.resembles {result : EStateM.Result Fault (Device ε₁) Unit}
    {other : EStateM.Result Fault (Device ε₂) Unit} (agree : Matches alike result other) :
    Resembles alike result other := by
  cases agree with
  | ok twins => exact ⟨rfl, twins⟩
  | error twins => exact ⟨rfl, twins⟩

theorem Matches.bind (agree : Matches alike (first left) (other right))
    (continues : ∀ {left right}, Twins alike left right → Matches alike (rest left) (more right)) :
    Matches alike ((first >>= fun _ => rest) left) ((other >>= fun _ => more) right) := by
  rw [bind_apply, bind_apply]
  generalize first left = result at agree
  generalize other right = answer at agree
  cases agree with
  | ok twins => exact continues twins
  | error twins => exact .error twins

/-- Only what comes last may end in a fault of one store. -/
theorem Matches.bind_resembles (agree : Matches alike (first left) (other right))
    (continues : ∀ {left right}, Twins alike left right →
      Resembles alike (rest left) (more right)) :
    Resembles alike ((first >>= fun _ => rest) left) ((other >>= fun _ => more) right) := by
  rw [bind_apply, bind_apply]
  generalize first left = result at agree
  generalize other right = answer at agree
  cases agree with
  | ok twins => exact continues twins
  | error twins => exact ⟨rfl, twins⟩

end Sequels

/-! ## Windows -/

section Windows

variable [RadioStack ε₁] [RadioStack ε₂] [RecordStore ε₁] [RecordStore ε₂]

theorem ask_matches (blind : StoreBlind alike) (twins : Twins alike left right)
    (request : RadioRequest) : Matches alike (ask request left) (ask request right) := by
  have answers := blind.answers twins.env request
  have asked := blind.asked twins.env request
  unfold ask
  dsimp only
  rw [← answers]
  cases tolerate request.tolerated (RadioStack.request request left.env).1 with
  | ok => exact .ok { twins with env := asked }
  | error fault => exact .error { twins with env := asked }

theorem dropLink_matches (blind : StoreBlind alike) (twins : Twins alike left right) :
    Matches alike (dropLink left) (dropLink right) := by
  have link := twins.link
  rw [dropLink_apply, dropLink_apply]
  cases up : left.link with
  | up handle =>
    rw [← link, up]
    show Matches alike (ask (.disconnect handle) _) (ask (.disconnect handle) _)
    refine ask_matches blind ?_ _
    exact { twins with link := rfl }
  | down | closing =>
    rw [← link, up]
    exact .ok twins

theorem startRadio_matches (blind : StoreBlind alike) (twins : Twins alike left right) :
    Matches alike (startRadio left) (startRadio right) := by
  show Matches alike (ask (.start left.profile left.window) _)
    (ask (.start right.profile right.window) _)
  rw [twins.profile, twins.window]
  refine ask_matches blind ?_ _
  exact { twins with running := rfl }

theorem stopRadio_matches (blind : StoreBlind alike) (twins : Twins alike left right) :
    Matches alike (stopRadio left) (stopRadio right) := by
  show Matches alike (ask .stop _) (ask .stop _)
  refine ask_matches blind ?_ .stop
  exact { twins with running := rfl }

theorem silence_matches (blind : StoreBlind alike) (twins : Twins alike left right) :
    Matches alike (silence left) (silence right) := by
  have unwanted : Twins alike { left with wanted := false } { right with wanted := false } :=
    { twins with wanted := rfl }
  rw [silence_apply, silence_apply]
  exact ite_related (by rw [twins.link, twins.running]) (stopRadio_matches blind unwanted)
    (.ok unwanted)

theorem advertise_matches (blind : StoreBlind alike) (twins : Twins alike left right) :
    Matches alike (advertise left) (advertise right) := by
  have wanted : Twins alike { left with wanted := true } { right with wanted := true } :=
    { twins with wanted := rfl }
  have dropped := dropLink_matches blind wanted
  have started := startRadio_matches blind wanted
  have link := twins.link
  rw [advertise_apply, advertise_apply]
  generalize ({ left with wanted := true } : Device ε₁) = before at wanted dropped started ⊢
  generalize ({ right with wanted := true } : Device ε₂) = other at wanted dropped started ⊢
  rw [twins.link]
  cases right.link with
  | up handle => exact dropped
  | closing handle => exact .ok wanted
  | down => exact ite_related (by rw [twins.running]) (.ok wanted) started

theorem sendWhitelist_matches (blind : StoreBlind alike) (twins : Twins alike left right) :
    Matches alike (sendWhitelist left) (sendWhitelist right) := by
  show Matches alike ((ask (.whitelist left.whitelist) >>= fun _ => do
      ask (.identities (← get).whitelist)) left)
    ((ask (.whitelist right.whitelist) >>= fun _ => do
      ask (.identities (← get).whitelist)) right)
  rw [twins.whitelist]
  refine (ask_matches blind twins _).bind fun {before other} twins => ?_
  show Matches alike (ask (.identities before.whitelist) before)
    (ask (.identities other.whitelist) other)
  rw [twins.whitelist]
  exact ask_matches blind twins _

theorem putInForce_matches (blind : StoreBlind alike) (twins : Twins alike left right) :
    Matches alike (putInForce left) (putInForce right) :=
  (silence_matches blind twins).bind fun twins =>
    (sendWhitelist_matches blind twins).bind fun twins => advertise_matches blind twins

/-! ### Described windows -/

namespace Twins

omit [RadioStack ε₁] [RadioStack ε₂] [RecordStore ε₁] [RecordStore ε₂] in
theorem counted (twins : Twins alike left right) : Twins alike left.counted right.counted :=
  { twins with window := congrArg Window.next twins.window }

omit [RadioStack ε₁] [RadioStack ε₂] [RecordStore ε₁] [RecordStore ε₂] in
theorem forPairing (twins : Twins alike left right) :
    Twins alike left.forPairing right.forPairing :=
  { twins.counted with whitelist := rfl, profile := rfl, mode := rfl }

omit [RadioStack ε₁] [RadioStack ε₂] [RecordStore ε₁] [RecordStore ε₂] in
theorem forPeer (twins : Twins alike left right) (peer : PeerId) :
    Twins alike (left.forPeer peer) (right.forPeer peer) :=
  { twins.counted with whitelist := rfl, profile := rfl, mode := rfl }

/-- The registry is part of the stack, so both devices read the same whitelist. -/
theorem whitelisted (blind : StoreBlind alike) (twins : Twins alike left right) :
    Twins alike { left.counted with whitelist := Registry.whitelist left.env }
      { right.counted with whitelist := Registry.whitelist right.env } := by
  have registry : Registry.whitelist left.env = Registry.whitelist right.env := by
    rw [Registry.whitelist, blind.registry twins.env]
    rfl
  exact { twins.counted with whitelist := registry }

theorem forScan (blind : StoreBlind alike) (twins : Twins alike left right) :
    Twins alike left.forScan right.forScan := by
  have read := twins.whitelisted blind
  have empty := congrArg List.isEmpty read.whitelist
  have armed : left.timers.arm left.scanTimer scanTime =
      right.timers.arm right.scanTimer scanTime := by
    rw [twins.timers, twins.scanTimer]
  have restarted := congrArg Sequence.restart twins.sequence
  refine ite_related (Bool.eq_iff_iff.1 empty) read.forPairing ?_
  exact { read with sequence := restarted, timers := armed, profile := rfl, mode := rfl }

theorem forAnyBonded (blind : StoreBlind alike) (twins : Twins alike left right) :
    Twins alike left.forAnyBonded right.forAnyBonded := by
  have read := twins.whitelisted blind
  have empty := congrArg List.isEmpty read.whitelist
  refine ite_related (Bool.eq_iff_iff.1 empty) read.forPairing ?_
  exact { read with profile := rfl, mode := rfl }

theorem forTargets (blind : StoreBlind alike) (twins : Twins alike left right) :
    Twins alike left.forTargets right.forTargets := by
  unfold Device.forTargets
  rw [twins.sequence]
  obtain ⟨first, sequence⟩ := right.sequence.closeScan
  have closed : Twins alike { left with sequence } { right with sequence } :=
    { twins with sequence := rfl }
  cases first with
  | some peer => exact closed.forPeer peer
  | none => exact closed.forScan blind

theorem forNext (blind : StoreBlind alike) (twins : Twins alike left right) :
    Twins alike left.forNext right.forNext := by
  unfold Device.forNext
  rw [twins.sequence]
  obtain ⟨turn, sequence⟩ := right.sequence.turn
  have turned : Twins alike { left with sequence } { right with sequence } :=
    { twins with sequence := rfl }
  cases turn with
  | next peer => exact turned.forPeer peer
  | scanAgain => exact turned.forScan blind
  | giveUp => exact turned.forAnyBonded blind

theorem forSequence (blind : StoreBlind alike) (twins : Twins alike left right) :
    Twins alike left.forSequence right.forSequence := by
  have fresh : Twins alike { left with sequence := .fresh } { right with sequence := .fresh } :=
    { twins with sequence := rfl }
  exact fresh.forScan blind

end Twins

theorem rest_matches (blind : StoreBlind alike) (twins : Twins alike left right) :
    Matches alike (rest left) (rest right) := by
  rw [rest_apply, rest_apply]
  exact silence_matches blind { twins.counted with mode := rfl }

theorem startSequence_matches (blind : StoreBlind alike) (twins : Twins alike left right) :
    Matches alike (startSequence left) (startSequence right) := by
  rw [startSequence_apply, startSequence_apply]
  exact putInForce_matches blind (twins.forSequence blind)

theorem setMode_matches (blind : StoreBlind alike) (twins : Twins alike left right) (mode : Mode)
    (target : Option PeerId) :
    Matches alike (setMode mode target left) (setMode mode target right) := by
  cases mode with
  | idle => exact rest_matches blind twins
  | pairing => exact putInForce_matches blind twins.forPairing
  | scan =>
    show Matches alike (openScan left) (openScan right)
    rw [openScan_apply, openScan_apply]
    exact putInForce_matches blind (twins.forScan blind)
  | anyBonded =>
    show Matches alike (openAnyBonded left) (openAnyBonded right)
    rw [openAnyBonded_apply, openAnyBonded_apply]
    exact putInForce_matches blind (twins.forAnyBonded blind)
  | directed =>
    cases target with
    | some peer => exact putInForce_matches blind (twins.forPeer peer)
    | none =>
      show Matches alike (openScan left.counted) (openScan right.counted)
      rw [openScan_apply, openScan_apply]
      exact putInForce_matches blind (twins.counted.forScan blind)

end Windows

/-! ## Events -/

section Events

variable [RadioStack ε₁] [RadioStack ε₂] [RecordStore ε₁] [RecordStore ε₂]

theorem act_matches (blind : StoreBlind alike) (twins : Twins alike left right) (action : Action) :
    Matches alike (act action left) (act action right) := by
  cases action with
  | ignore | noteDetection => exact .ok twins
  | dropLink => exact dropLink_matches blind twins
  | endWindow | keepLink => exact silence_matches blind twins
  | turnToTargets =>
    show Matches alike (turnToTargets left) (turnToTargets right)
    rw [turnToTargets_apply, turnToTargets_apply]
    exact putInForce_matches blind (twins.forTargets blind)
  | turnToNext =>
    show Matches alike (turnToNext left) (turnToNext right)
    rw [turnToNext_apply, turnToNext_apply]
    exact putInForce_matches blind (twins.forNext blind)

omit [RadioStack ε₁] [RadioStack ε₂] [RecordStore ε₁] [RecordStore ε₂] in
theorem Twins.actionFor (twins : Twins alike left right) (kind : EventKind) :
    actionFor left kind = actionFor right kind := by
  rw [Controller.actionFor, Controller.actionFor, twins.mode, twins.sequence]

theorem closeScanWindow_matches (blind : StoreBlind alike) (twins : Twins alike left right) :
    Matches alike (closeScanWindow left) (closeScanWindow right) := by
  refine (silence_matches blind twins).bind fun {before other} twins => ?_
  show Matches alike (act (actionFor before .windowEnded) before)
    (act (actionFor other .windowEnded) other)
  rw [twins.actionFor]
  exact act_matches blind twins _

omit [RadioStack ε₁] [RadioStack ε₂] [RecordStore ε₁] [RecordStore ε₂] in
theorem Twins.noted (twins : Twins alike left right) (peer : PeerId) :
    Twins alike (left.noted peer) (right.noted peer) := by
  have noted : (left.noted peer).sequence = (right.noted peer).sequence := by
    simp only [Device.noted, twins.ranking, twins.sequence]
  exact { twins with sequence := noted }

omit [RadioStack ε₁] [RadioStack ε₂] [RecordStore ε₁] [RecordStore ε₂] in
theorem Twins.allDetected (twins : Twins alike left right) :
    allDetected left = allDetected right := by
  rw [Controller.allDetected, Controller.allDetected, twins.sequence, twins.ranking]

theorem noteAndClose_matches (blind : StoreBlind alike) (twins : Twins alike left right)
    (peer : PeerId) : Matches alike (noteAndClose peer left) (noteAndClose peer right) := by
  have noted := twins.noted peer
  simp only [noteAndClose, bind_apply, noteDetection_apply, get_apply]
  rw [noted.allDetected]
  split
  · exact closeScanWindow_matches blind noted
  · exact .ok noted

theorem onDetected_matches (blind : StoreBlind alike) (twins : Twins alike left right)
    (peer : PeerId) : Matches alike (onDetected peer left) (onDetected peer right) := by
  have struck : Twins alike (left.struck peer) (right.struck peer) :=
    { twins with whitelist := congrArg (List.erase · peer) twins.whitelist }
  show Matches alike
    ((sendWhitelist >>= fun _ => dropLink >>= fun _ => noteAndClose peer) (left.struck peer))
    ((sendWhitelist >>= fun _ => dropLink >>= fun _ => noteAndClose peer) (right.struck peer))
  exact (sendWhitelist_matches blind struck).bind fun twins =>
    (dropLink_matches blind twins).bind fun twins => noteAndClose_matches blind twins peer

theorem respond_matches (blind : StoreBlind alike) (twins : Twins alike left right)
    (event : WindowEvent) : Matches alike (respond event left) (respond event right) := by
  rw [respond_apply, respond_apply, twins.actionFor]
  split
  · exact onDetected_matches blind twins _
  · exact act_matches blind twins _

theorem Twins.onScanTimer (blind : StoreBlind alike) (twins : Twins alike left right) :
    Twins alike (onScanTimer left) (onScanTimer right) := by
  have closes := closeScanWindow_matches blind twins
  refine ite_related (by rw [twins.mode, twins.sequence]) ?_ twins
  show Twins alike (match closeScanWindow left with
      | .ok () device => device
      | .error fault device => { device with fault := some fault })
    (match closeScanWindow right with
      | .ok () device => device
      | .error fault device => { device with fault := some fault })
  generalize closeScanWindow left = result at closes
  generalize closeScanWindow right = other at closes
  cases closes with
  | ok twins => exact twins
  | error twins => exact { twins with fault := rfl }

theorem onConnected_matches (blind : StoreBlind alike) (twins : Twins alike left right)
    (peer : Option PeerId) (handle : LinkHandle) :
    Matches alike (onConnected peer handle left) (onConnected peer handle right) := by
  have linked : Twins alike (left.linked peer handle) (right.linked peer handle) :=
    { twins with link := rfl, running := rfl, bondedLink := rfl }
  have event : reception (left.linked peer handle) peer =
      reception (right.linked peer handle) peer := by
    cases peer with
    | none => rfl
    | some peer => rw [reception, reception, linked.mode]
  rw [onConnected_apply, onConnected_apply, event]
  exact ite_related (by rw [twins.link]) (respond_matches blind linked _) (.ok twins)

theorem onDisconnected_matches (blind : StoreBlind alike) (twins : Twins alike left right) :
    Matches alike (onDisconnected left) (onDisconnected right) := by
  have unlinked : Twins alike left.unlinked right.unlinked :=
    { twins with link := rfl, running := rfl, bondedLink := rfl }
  rw [onDisconnected_apply, onDisconnected_apply, twins.link]
  cases right.link with
  | down => exact .ok twins
  | closing handle => exact .ok unlinked
  | up handle =>
    refine ite_related (by rw [twins.bondedLink, twins.mode]) ?_ ?_
    · exact putInForce_matches blind unlinked.forPairing
    · exact putInForce_matches blind (unlinked.forSequence blind)

theorem onTimedOut_matches (blind : StoreBlind alike) (twins : Twins alike left right)
    (window : Window) : Matches alike (onTimedOut window left) (onTimedOut window right) := by
  have stopped : Twins alike left.stopped right.stopped := { twins with running := rfl }
  rw [onTimedOut_apply, onTimedOut_apply, twins.mode]
  refine ite_related (by rw [twins.window]) ?_ (.ok twins)
  cases right.mode with
  | directed | anyBonded => exact respond_matches blind stopped _
  | pairing => exact rest_matches blind stopped
  | scan | idle => exact .ok stopped

theorem onRequest_matches (blind : StoreBlind alike) (twins : Twins alike left right)
    (request : Request) : Matches alike (onRequest request left) (onRequest request right) := by
  cases request with
  | moveCursor movement =>
    rw [onRequest_moveCursor, onRequest_moveCursor, twins.link]
    cases right.link with
    | up handle => exact ask_matches blind twins _
    | down | closing => exact .ok twins
  | pairingWindow =>
    rw [onRequest_pairingWindow, onRequest_pairingWindow]
    exact putInForce_matches blind twins.forPairing
  | eraseBonds => exact .ok { twins with erasePending := rfl }
  | disconnect => exact dropLink_matches blind twins

end Events

/-! ## Saves, ticks and the start -/

section Store

variable [RadioStack ε₁] [RadioStack ε₂] [RecordStore ε₁] [RecordStore ε₂]

omit [RadioStack ε₁] [RadioStack ε₂] [RecordStore ε₂] in
/-- Whatever a save returns is forgiven. -/
theorem Saves.forgiven {result : EStateM.Result Fault (Device ε₁) Unit}
    (saves : Saves left result) :
    Fault.forgiven (returned result) = .ok () := by
  cases saves <;> rfl

theorem Saves.twins_left (blind : StoreBlind alike) {result : EStateM.Result Fault (Device ε₁) Unit}
    (saves : Saves left result) (twins : Twins alike left right) :
    Twins alike (final result) right := by
  have stored := blind.left twins.env (.write Ranking.Record.key left.ranking.encode)
  cases saves with
  | spared => exact twins
  | done => exact { twins with env := stored }
  | failed => exact { twins with env := stored }

theorem Saves.twins_right (blind : StoreBlind alike)
    {result : EStateM.Result Fault (Device ε₂) Unit} (saves : Saves right result)
    (twins : Twins alike left right) : Twins alike left (final result) := by
  have stored := blind.right twins.env (.write Ranking.Record.key right.ranking.encode)
  cases saves with
  | spared => exact twins
  | done => exact { twins with env := stored }
  | failed => exact { twins with env := stored }

theorem saveRanking_resembles (blind : StoreBlind alike) (twins : Twins alike left right) :
    Resembles alike (saveRanking left) (saveRanking right) := by
  have saves := saveRanking_saves left
  have others := saveRanking_saves right
  exact ⟨saves.forgiven.trans others.forgiven.symm,
    others.twins_right blind (saves.twins_left blind twins)⟩

theorem onBonded_resembles (blind : StoreBlind alike) (twins : Twins alike left right)
    (peer : PeerId) : Resembles alike (onBonded peer left) (onBonded peer right) := by
  rw [onBonded_apply, onBonded_apply, twins.link, twins.ranking]
  cases right.link with
  | down | closing => exact (Matches.ok twins).resembles
  | up handle =>
    dsimp only
    split
    · refine saveRanking_resembles blind ?_
      exact { twins with link := rfl, bondedLink := rfl, ranking := rfl }
    · refine (Matches.ok ?_).resembles
      exact { twins with link := rfl, bondedLink := rfl, ranking := rfl }

omit [RadioStack ε₁] [RadioStack ε₂] [RecordStore ε₂] in
theorem onStorageFull_forgiven (device : Device ε₁) :
    Fault.forgiven (returned (onStorageFull device)) = .ok () := by
  unfold onStorageFull
  dsimp only
  split <;> rfl

theorem onStorageFull_resembles (blind : StoreBlind alike) (twins : Twins alike left right) :
    Resembles alike (onStorageFull left) (onStorageFull right) := by
  refine ⟨(onStorageFull_forgiven left).trans (onStorageFull_forgiven right).symm, ?_⟩
  rw [final_onStorageFull, final_onStorageFull]
  exact { twins with env := blind.right (blind.left twins.env .reclaim) .reclaim }

theorem onEvent_resembles (blind : StoreBlind alike) (twins : Twins alike left right)
    (event : RadioEvent) : Resembles alike (onEvent event left) (onEvent event right) := by
  cases event with
  | connected peer handle => exact (onConnected_matches blind twins peer handle).resembles
  | disconnected => exact (onDisconnected_matches blind twins).resembles
  | bonded peer => exact onBonded_resembles blind twins peer
  | timedOut window => exact (onTimedOut_matches blind twins window).resembles
  | storageFull => exact onStorageFull_resembles blind twins
  | bondsErased => exact (startSequence_matches blind twins).resembles

theorem reconcile_matches (blind : StoreBlind alike) (twins : Twins alike left right) :
    Matches alike (reconcile left) (reconcile right) := by
  rw [reconcile_apply, reconcile_apply]
  refine ite_related (by rw [twins.link, twins.wanted, twins.running]) ?_ (.ok twins)
  exact ite_related (by rw [twins.wanted]) (startRadio_matches blind twins)
    (stopRadio_matches blind twins)

theorem eraseWhenDown_matches (blind : StoreBlind alike) (twins : Twins alike left right) :
    Matches alike (eraseWhenDown left) (eraseWhenDown right) := by
  have cleared :
      Twins alike { left with erasePending := false } { right with erasePending := false } :=
    { twins with erasePending := rfl }
  have erased := ask_matches blind cleared .forgetBonds
  rw [eraseWhenDown_apply, eraseWhenDown_apply]
  refine ite_related (by rw [twins.erasePending, twins.link]) ?_ (.ok twins)
  generalize ask .forgetBonds { left with erasePending := false } = result at erased
  generalize ask .forgetBonds { right with erasePending := false } = other at erased
  cases erased with
  | ok twins => exact .ok { twins with ranking := rfl }
  | error twins => exact .error twins

theorem tick_resembles (blind : StoreBlind alike) (twins : Twins alike left right) :
    Resembles alike (tick left) (tick right) := by
  cases recorded : left.fault with
  | some fault =>
    rw [tick_fault recorded, tick_fault (twins.fault.symm.trans recorded)]
    refine (Matches.error ?_).resembles
    exact { twins with fault := rfl }
  | none =>
    rw [tick_apply recorded, tick_apply (twins.fault.symm.trans recorded)]
    exact (reconcile_matches blind twins).bind_resembles fun twins =>
      (eraseWhenDown_matches blind twins).bind_resembles fun twins =>
        saveRanking_resembles blind twins

/-- The answer of the store to the read of the ranking. -/
def Device.storedRanking {ε : Type} [RecordStore ε] (device : Device ε) :
    Except StorageError (Option Reading) :=
  (RecordStore.read Ranking.Record.key Ranking.Record.room device.env).1

theorem Twins.restored (blind : StoreBlind alike) (twins : Twins alike left right)
    (answer : left.storedRanking = right.storedRanking) :
    Twins alike left.restored right.restored := by
  have ranking : left.restored.ranking = right.restored.ranking := by
    rw [Device.ranking_restored, Device.ranking_restored, twins.ranking]
    exact congrArg (fun answer => (Device.answered? answer).getD right.ranking) answer
  have env : alike left.restored.env right.restored.env := by
    rw [Device.env_restored, Device.env_restored]
    exact blind.right (blind.left twins.env (.read _ _)) (.read _ _)
  exact { twins with ranking := ranking, env := env }

theorem Twins.pruned (blind : StoreBlind alike) (twins : Twins alike left right) :
    Twins alike left.pruned right.pruned := by
  have ranking : left.pruned.ranking = right.pruned.ranking := by
    unfold Device.pruned Registry.enumerates
    rw [twins.ranking, blind.registry twins.env]
  exact { twins with ranking := ranking }

theorem start_resembles (blind : StoreBlind alike) (twins : Twins alike left right)
    (answer : left.storedRanking = right.storedRanking) :
    Resembles alike (start left) (start right) := by
  have opened := ((twins.restored blind answer).pruned blind).forSequence blind
  rw [start_apply, start_apply]
  exact (putInForce_matches blind opened).bind_resembles fun twins =>
    saveRanking_resembles blind twins

end Store

end BondedMouse
