import BondedMouse.Proofs.Ranking.Order
import BondedMouse.Proofs.Session.Runs
import BondedMouse.Simulation.Journal
import BondedMouse.Simulation.Platform

/-! # The link and the flags of advertising

A kept link and a wish to advertise exclude each other, and what runs is wanted.  This
is kept by every operation that the stack does not refuse; and because of it a tick has
never anything to stop.

`Survives` is the form in which it is proved: a property of the device that an operation
leaves behind, whatever became of it, unless the stack refused a request.
-/

namespace BondedMouse

variable {ε : Type}

/-! ## What an operation leaves behind -/

/-- The operation left a device with the property behind, or the stack refused it. -/
def Survives (property : Device ε → Prop) : EStateM.Result Fault (Device ε) Unit → Prop
  | .ok () device => property device
  | .error (.stack _) _ => True
  | .error _ device => property device

section Survives

variable {property : Device ε → Prop}

theorem Survives.mono {other : Device ε → Prop} {result : EStateM.Result Fault (Device ε) Unit}
    (survives : Survives property result) (implies : ∀ device, property device → other device) :
    Survives other result := by
  cases result with
  | ok value device => exact implies device survives
  | error fault device =>
    cases fault with
    | stack error => trivial
    | storage | timersExhausted | rankingsExhausted => exact implies device survives

theorem Survives.bind {first rest : ControlM ε Unit} {device : Device ε}
    (survives : Survives property (first device))
    (continues : ∀ next, property next → Survives property (rest next)) :
    Survives property ((first >>= fun _ => rest) device) := by
  rw [Controller.bind_apply]
  generalize first device = result at survives
  cases result with
  | ok value next => exact continues next survives
  | error fault next => exact survives

theorem Asks.survives_of_answers [RadioStack ε] {requests : List RadioRequest}
    {device target : Device ε} {result : EStateM.Result Fault (Device ε) Unit}
    (asks : Asks requests device target result)
    (holds : ∀ env, Answers requests device.env env → property { target with env }) :
    Survives property result := by
  cases asks with
  | @answered env answers => exact holds env answers
  | refused refuses => trivial

theorem Asks.survives [RadioStack ε] {requests : List RadioRequest} {device target : Device ε}
    {result : EStateM.Result Fault (Device ε) Unit} (asks : Asks requests device target result)
    (holds : ∀ env, property { target with env }) : Survives property result :=
  asks.survives_of_answers fun env _ => holds env

theorem Saves.survives [RecordStore ε] {device : Device ε}
    {result : EStateM.Result Fault (Device ε) Unit} (saves : Saves device result)
    (here : property device)
    (holds : ∀ env unsaved saveTries, property { device with env, unsaved, saveTries }) :
    Survives property result := by
  cases saves with
  | spared => exact here
  | done => exact holds _ _ _
  | failed => exact holds _ _ _

end Survives

/-! ## Agreement of the flags -/

/-- The link and the flags do not contradict each other. -/
structure FlagsAgree (device : Device ε) : Prop where
  runs : device.running = true → device.wanted = true ∧ device.link = .down
  kept : ∀ handle, device.link = .up handle → device.wanted = false
  idle : device.mode = .idle → device.wanted = false

namespace FlagsAgree

theorem stopped {device : Device ε} (flags : FlagsAgree device) (linked : device.link ≠ .down) :
    device.running = false :=
  Bool.eq_false_iff.2 fun running => linked (flags.runs running).2

/-- What runs is wanted; so where the two differ it is the start that is missing. -/
theorem missing {device : Device ε} (flags : FlagsAgree device)
    (differs : device.wanted ≠ device.running) : device.wanted = true ∧ device.running = false := by
  cases running : device.running with
  | false => exact ⟨by simpa [running] using differs, rfl⟩
  | true => exact absurd ((flags.runs running).1.trans running.symm) differs

theorem unwanted {device : Device ε} (wanted : device.wanted = false)
    (running : device.running = false) : FlagsAgree device where
  runs := by simp [running]
  kept := fun _ _ => wanted
  idle := fun _ => wanted

theorem silenced_running {device : Device ε} (flags : FlagsAgree device) :
    device.silenced.running = false := by
  cases running : device.running with
  | false => simp [Device.silenced, running]
  | true => simp [Device.silenced, (flags.runs running).2]

theorem silenced {device : Device ε} (flags : FlagsAgree device) : FlagsAgree device.silenced :=
  .unwanted rfl flags.silenced_running

/-- A window that is put into force runs, unless a link is still on its way down. -/
theorem advertised {device : Device ε} (flags : FlagsAgree device)
    (advertises : device.mode ≠ .idle) : FlagsAgree device.silenced.advertised where
  runs := by
    intro running
    -- With a link nothing ran before, and nothing is started.
    refine ⟨rfl, Link.dropped_eq_down_iff.2 (Decidable.byContradiction fun linked => ?_)⟩
    have stopped : device.running = false := flags.stopped linked
    have apart : device.link ≠ .down := linked
    simp [Device.advertised, Device.silenced, stopped, apart] at running
  kept := fun handle up => absurd up (Link.dropped_ne_up _ handle)
  idle := fun idle => absurd idle advertises

end FlagsAgree

/-- The flags agree, no fault of the scan timer waits, and the ranking has a property.  That is
what it takes to open a window. -/
structure Ready (sound : Ranking → Prop) (device : Device ε) : Prop extends FlagsAgree device where
  clear : device.fault = none
  ranked : sound device.ranking

/-- A device between two operations of which the stack refused nothing: it is ready for a window,
and in a scan it wants to advertise. -/
structure Calm (sound : Ranking → Prop) (device : Device ε) : Prop extends Ready sound device where
  scan : device.mode = .scan → device.sequence.phase = .scanning ∧ device.wanted = true

/-- The link is as it was, the device is calm, and what is wanted runs unless there is a link. -/
structure Settled (sound : Ranking → Prop) (link : Link) (device : Device ε) : Prop
    extends Calm sound device where
  stays : device.link = link
  settled : link = .down → device.running = device.wanted

variable {sound : Ranking → Prop} {device described : Device ε}

namespace Ready

theorem describes (ready : Ready sound device) (describes : Describes device described) :
    Ready sound described := by
  have advertises := describes.advertises
  cases describes with
  | intro profiled numbered scanning =>
    exact ⟨⟨ready.runs, ready.kept, fun idle => absurd idle advertises⟩, ready.clear, ready.ranked⟩

end Ready

namespace Calm

theorem ranked_as (calm : Calm sound device) {ranking : Ranking} (ranked : sound ranking) :
    Calm sound { device with ranking } :=
  ⟨⟨{ calm.toFlagsAgree with }, calm.clear, ranked⟩, calm.scan⟩

theorem of_ready (ready : Ready sound device) (quiet : device.mode ≠ .scan) : Calm sound device :=
  ⟨ready, fun mode => absurd mode quiet⟩

/-- A device whose link is on its way down, and which may still want to advertise. -/
theorem dropped (running : device.running = false) (advertises : device.mode ≠ .idle)
    (clear : device.fault = none) (ranked : sound device.ranking)
    (scan : device.mode = .scan → device.sequence.phase = .scanning ∧ device.wanted = true) :
    Calm sound { device with link := device.link.dropped } where
  runs := fun runs => by simp [running] at runs
  kept := fun handle up => absurd up (Link.dropped_ne_up _ handle)
  idle := fun idle => absurd idle advertises
  clear := clear
  ranked := ranked
  scan := scan

end Calm

/-! ## Operations -/

section Operations

variable [RadioStack ε] {result : EStateM.Result Fault (Device ε) Unit}

open Controller

theorem putInForce_survives (ready : Ready sound device) (describes : Describes device described) :
    Survives (Calm sound) (putInForce described) := by
  have after := ready.describes describes
  -- A described scan begins anew, and so in the scanning phase.
  have scanning : described.mode = .scan → described.sequence.phase = .scanning := by
    intro mode
    obtain ⟨earlier, restarted⟩ := describes.restarts mode
    rw [restarted]
    rfl
  exact (putInForce_asks described).survives fun env =>
    ⟨⟨{ after.toFlagsAgree.advertised describes.advertises with }, after.clear, after.ranked⟩,
      fun mode => ⟨scanning mode, rfl⟩⟩

theorem Closes.survives (closes : Closes device result) (ready : Ready sound device) :
    Survives (Calm sound) result := by
  cases closes with
  | refused refuses => trivial
  | @turned env answers =>
    have silenced : Ready sound { device.silenced with env } :=
      ⟨{ ready.toFlagsAgree.silenced with }, ready.clear, ready.ranked⟩
    exact putInForce_survives silenced (.targets _)

theorem Detects.survives {peer : PeerId} (detects : Detects device peer result)
    (running : device.running = false) (advertises : device.mode ≠ .idle)
    (clear : device.fault = none) (ranked : sound device.ranking)
    (scan : device.mode = .scan → device.sequence.phase = .scanning ∧ device.wanted = true) :
    Survives (Calm sound) result := by
  cases detects with
  | refused refuses => trivial
  | noted answers more =>
    -- The detection changes the sequence besides, but not its phase.
    have dropped : Calm sound { device with link := device.link.dropped } :=
      .dropped running advertises clear ranked scan
    refine ⟨{ dropped.toReady with }, fun mode => ?_⟩
    exact ⟨((device.struck peer).phase_noted peer).trans (scan mode).1, (scan mode).2⟩
  | @complete env answers all =>
    have unwanted : Ready sound { device.detected peer with wanted := false, env } :=
      ⟨.unwanted rfl running, clear, ranked⟩
    exact putInForce_survives unwanted (.targets _)

theorem Receives.survives {peer : Option PeerId} (receives : Receives device peer result)
    (running : device.running = false) (idle : device.mode = .idle → device.wanted = false)
    (clear : device.fault = none) (ranked : sound device.ranking)
    (scan : device.mode = .scan → device.sequence.phase = .scanning ∧ device.wanted = true) :
    Survives (Calm sound) result := by
  cases receives with
  | ignored rests =>
    exact .of_ready ⟨.unwanted (idle rests) running, clear, ranked⟩ (by simp [rests])
  | paired mode => exact .of_ready ⟨.unwanted rfl running, clear, ranked⟩ (by simp [mode])
  | kept meant =>
    -- A kept link ends the wish to advertise; it is not the scan that keeps it.
    refine .of_ready ⟨.unwanted rfl running, clear, ranked⟩ fun mode => ?_
    obtain other | ⟨-, phase⟩ := meant
    · exact absurd (other.symm.trans mode) (by decide)
    · exact absurd (phase.symm.trans (scan mode).1) (by decide)
  | dropped advertises stranger =>
    exact (dropLink_asks device).survives fun env =>
      { Calm.dropped running advertises clear ranked scan with }
  | detected scans detects =>
    have advertises : device.mode ≠ .idle := by
      obtain ⟨mode | mode, phase⟩ := scans <;> simp [mode]
    exact detects.survives running advertises clear ranked scan

theorem Expires.survives (expires : Expires device result) (calm : Calm sound device) :
    Survives (Calm sound) result := by
  -- Whatever follows, the window that ran out does not run.
  have stopped : Ready sound device.stopped :=
    ⟨⟨fun running => (by cases running), calm.kept, calm.idle⟩, calm.clear, calm.ranked⟩
  cases expires with
  | ignored undirected closed => exact ⟨stopped, calm.scan⟩
  | rested mode => exact .of_ready ⟨.unwanted rfl rfl, calm.clear, calm.ranked⟩ nofun
  | scanned mode phase => exact putInForce_survives stopped (.targets _)
  | offered mode phase => exact putInForce_survives stopped (.next _)

theorem onConnected_survives (calm : Calm sound device) (peer : Option PeerId)
    (handle : LinkHandle) : Survives (Calm sound) (onConnected peer handle device) := by
  by_cases down : device.link = .down
  · exact (onConnected_down peer handle down).survives rfl calm.idle calm.clear calm.ranked
      calm.scan
  · rw [onConnected_linked peer handle down]
    exact calm

theorem onDisconnected_survives (calm : Calm sound device) :
    Survives (Calm sound) (onDisconnected device) := by
  rw [onDisconnected_apply]
  cases link : device.link with
  | down => exact calm
  | closing handle =>
    exact ⟨⟨⟨fun running => (by cases running), fun handle up => (by cases up), calm.idle⟩,
      calm.clear, calm.ranked⟩, calm.scan⟩
  | up handle =>
    -- The link was kept, so no window was wanted and none can run.
    have freed : Ready sound device.unlinked :=
      ⟨.unwanted (calm.kept handle link) rfl, calm.clear, calm.ranked⟩
    dsimp only
    split
    · exact putInForce_survives freed (.pairing _)
    · exact putInForce_survives freed (.sequence _)

theorem onTimedOut_survives (calm : Calm sound device) (window : Window) :
    Survives (Calm sound) (onTimedOut window device) := by
  by_cases present : window = device.window
  · subst present
    exact (onTimedOut_expires device).survives calm
  · rw [onTimedOut_stale present]
    exact calm

theorem startSequence_survives (calm : Calm sound device) :
    Survives (Calm sound) (startSequence device) := by
  rw [startSequence_apply]
  exact putInForce_survives calm.toReady (.sequence _)

theorem setMode_survives (calm : Calm sound device) (mode : Mode)
    (target : Option PeerId) : Survives (Calm sound) (setMode mode target device) := by
  by_cases idle : mode = .idle
  · subst idle
    have silenced : Calm sound device.forRest.silenced :=
      .of_ready ⟨.unwanted rfl calm.toFlagsAgree.silenced_running, calm.clear, calm.ranked⟩ nofun
    exact (silence_asks device.forRest).survives fun env => { silenced with }
  · obtain ⟨described, describes, opens⟩ := setMode_opens target device idle
    rw [opens]
    exact putInForce_survives calm.toReady describes

theorem dropLink_survives (calm : Calm sound device) :
    Survives (Calm sound) (dropLink device) := by
  refine (dropLink_asks device).survives fun env => ?_
  refine ⟨⟨⟨fun running => ?_, fun handle up => absurd up (Link.dropped_ne_up _ handle),
    calm.idle⟩, calm.clear, calm.ranked⟩, calm.scan⟩
  exact ⟨(calm.runs running).1, Link.dropped_eq_down_iff.2 (calm.runs running).2⟩

theorem onRequest_survives (calm : Calm sound device) (request : Request) :
    Survives (Calm sound) (onRequest request device) := by
  cases request with
  | moveCursor movement =>
    rw [onRequest_moveCursor]
    split
    · exact (ask_asks _ device).survives fun env => { calm with }
    · exact calm
    · exact calm
  | pairingWindow =>
    rw [onRequest_pairingWindow]
    exact putInForce_survives calm.toReady (.pairing _)
  | eraseBonds => exact { calm with }
  | disconnect => exact dropLink_survives calm

theorem reconcile_survives (calm : Calm sound device) :
    Survives (Settled sound device.link) (reconcile device) := by
  refine (reconcile_asks device).survives fun env =>
    ⟨⟨⟨⟨?_, calm.kept, calm.idle⟩, calm.clear, calm.ranked⟩, calm.scan⟩, rfl,
      fun down => if_pos down⟩
  -- With a link the flag is not touched, and was not set.
  intro running
  by_cases down : device.link = .down
  · simp only [Device.reconciled, down, if_true] at running
    exact ⟨running, down⟩
  · simp only [Device.reconciled, down, if_false] at running
    exact calm.runs running

section Store

variable [RecordStore ε]

omit [RadioStack ε] in
theorem onBonded_survives (closed : Ranking.Closed sound) (calm : Calm sound device)
    (peer : PeerId) : Survives (Calm sound) (onBonded peer device) := by
  have ranked := calm.ranked_as (closed.insert peer calm.ranked)
  rw [onBonded_apply]
  split
  · dsimp only
    split
    · exact (saveRanking_saves _).survives { ranked with } fun _ _ _ => { ranked with }
    · exact { ranked with }
  · exact calm
  · exact calm

omit [RadioStack ε] in
theorem onStorageFull_survives (calm : Calm sound device) :
    Survives (Calm sound) (onStorageFull device) := by
  unfold onStorageFull
  dsimp only
  split <;> exact { calm with }

theorem onEvent_survives (closed : Ranking.Closed sound) (calm : Calm sound device)
    (event : RadioEvent) : Survives (Calm sound) (onEvent event device) := by
  cases event with
  | connected peer handle => exact onConnected_survives calm peer handle
  | disconnected => exact onDisconnected_survives calm
  | bonded peer => exact onBonded_survives closed calm peer
  | timedOut window => exact onTimedOut_survives calm window
  | storageFull => exact onStorageFull_survives calm
  | bondsErased => exact startSequence_survives calm

omit [RecordStore ε] in
theorem eraseWhenDown_survives (closed : Ranking.Closed sound) {link : Link}
    (settled : Settled sound link device) : Survives (Settled sound link) (eraseWhenDown device) := by
  have erases := eraseWhenDown_erases device
  generalize eraseWhenDown device = result at erases
  cases erases with
  | spared keeps => exact settled
  | refused pending down refuses => trivial
  | erased pending down answers =>
    exact ⟨{ settled.toCalm.ranked_as closed.empty with }, settled.stays, settled.settled⟩

/-- A tick brings what runs in line with what is wanted, unless the stack refuses. -/
theorem tick_survives (closed : Ranking.Closed sound) (calm : Calm sound device) :
    Survives (Settled sound device.link) (tick device) := by
  rw [tick_apply calm.clear]
  refine (reconcile_survives calm).bind fun reconciled settled => ?_
  refine (eraseWhenDown_survives closed settled).bind fun erased settled => ?_
  exact (saveRanking_saves erased).survives settled
    fun _ _ _ => { settled with }

theorem start_survives (closed : Ranking.Closed sound) (calm : Calm sound device) :
    Survives (Calm sound) (start device) := by
  -- The ranking is the one thing that the start changes before it opens a window.
  have kept : sound device.restored.pruned.ranking :=
    closed.retain _ (closed.restore calm.ranked device.env)
  have pruned : Calm sound device.restored.pruned :=
    { calm.ranked_as kept with }
  rw [start_apply]
  refine (putInForce_survives pruned.toReady (.sequence _)).bind fun opened calm => ?_
  exact (saveRanking_saves opened).survives calm fun _ _ _ => { calm with }

end Store

end Operations

/-! ## Runs -/

section Runs

variable [RadioStack ε] [RecordStore ε]

/-- The sessions that a run reaches in which the stack refuses nothing. -/
inductive CleanRun (started : Session ε) : Session ε → Prop
  | start : CleanRun started started
  | move {session : Session ε} (run : CleanRun started session) (move : Move ε)
      (untroubled : session.Untroubled move) : CleanRun started (session.moved move).2

omit [RadioStack ε] [RecordStore ε] in
theorem Survives.control {property : Device ε → Prop} {operation : ControlM ε Unit}
    {session : Session ε} (survives : Survives property (operation session.device))
    (returned : ∀ error, (session.control operation).1 ≠ .error (.stack error)) :
    property (session.control operation).2.device := by
  rw [Session.control_apply] at returned ⊢
  generalize operation session.device = result at survives returned
  cases result with
  | ok value device => exact survives
  | error fault device =>
    cases fault with
    -- The one result that says nothing of the device was not returned.
    | stack error => exact absurd rfl (returned error)
    | storage | timersExhausted | rankingsExhausted => exact survives

omit [RecordStore ε] in
theorem Rings.calm {device last : Device ε} (rings : Rings device last) (calm : Calm sound device)
    (recorded : ∀ error, last.fault ≠ some (.stack error)) : Calm sound last := by
  cases rings with
  | ignored quiet => exact calm
  | closed mode phase closes ok =>
    have survives := closes.survives calm.toReady
    rw [ok] at survives
    exact survives
  | failed mode phase closes error =>
    obtain ⟨refusal, rfl⟩ := closes.error error
    exact absurd rfl (recorded refusal)

theorem Calm.moved (closed : Ranking.Closed sound) {session : Session ε}
    (calm : Calm sound session.device) (wired : session.Wired) {move : Move ε}
    (untroubled : session.Untroubled move) : Calm sound (session.moved move).2.device := by
  obtain ⟨returned, recorded⟩ := untroubled
  cases move with
  | outside env => exact { calm with }
  | operation operation =>
    cases operation with
    | start => exact (start_survives closed calm).control returned
    | startSequence => exact (startSequence_survives calm).control returned
    | setMode mode target => exact (setMode_survives calm mode target).control returned
    | event event => exact (onEvent_survives closed calm event).control returned
    | request request => exact (onRequest_survives calm request).control returned
    | tick => exact ((tick_survives closed calm).control returned).toCalm
    | scanTimeout => exact (Controller.onScanTimer_rings session.device).calm calm recorded
    | timerTick => exact { calm with }
    | timerStep =>
      have steps := Session.timerStep_steps wired
      change ∀ error, session.timerStep.device.fault ≠ _ at recorded
      change Calm sound session.timerStep.device
      generalize session.timerStep.device = last at steps recorded
      cases steps with
      | quiet timers => exact { calm with }
      | rung before after rung rings =>
        -- The timers are not part of what is calm.
        have waiting : Calm sound { session.device with timers := before } := { calm with }
        exact { rings.calm waiting recorded with }

theorem CleanRun.wired {started session : Session ε} (run : CleanRun started session)
    (wired : started.Wired) : session.Wired := by
  induction run with
  | start => exact wired
  | move run move untroubled ih => exact ih.moved move

theorem CleanRun.calm (closed : Ranking.Closed sound) {started session : Session ε}
    (run : CleanRun started session) (wired : started.Wired) (calm : Calm sound started.device) :
    Calm sound session.device := by
  induction run with
  | start => exact calm
  | move run move untroubled ih => exact ih.moved closed (run.wired wired) untroubled

omit [RecordStore ε] in
theorem Calm.powerUp {ranking : Ranking} {env : ε} {reserved : Nat} {session : Session ε}
    (powered : Session.powerUp ranking env reserved = .ok session) (ranked : sound ranking) :
    Calm sound session.device := by
  obtain ⟨wired, scanTimer, timers, device⟩ := Session.powerUp_eq_ok powered
  rw [device]
  exact .of_ready ⟨.unwanted rfl rfl, rfl, ranked⟩ nofun

end Runs

/-! ## The calls of a tick -/

section Journal

open Simulation

variable [RadioStack ε] [RecordStore ε]

/-- Of the requests to the radio stack only some were made. -/
def MakesOnly (requests : List RadioRequest) (env last : Journaled ε) : Prop :=
  ∃ calls, last.calls = env.calls ++ calls ∧
    ∀ request result, Call.radio request result ∈ calls → request ∈ requests

namespace MakesOnly

omit [RadioStack ε] [RecordStore ε] in
theorem refl (requests : List RadioRequest) (env : Journaled ε) : MakesOnly requests env env :=
  ⟨[], by simp, by simp⟩

omit [RadioStack ε] [RecordStore ε] in
theorem trans {requests : List RadioRequest} {env middle last : Journaled ε}
    (first : MakesOnly requests env middle) (rest : MakesOnly requests middle last) :
    MakesOnly requests env last := by
  obtain ⟨calls, appended, allowed⟩ := first
  obtain ⟨more, appendedMore, allowedMore⟩ := rest
  refine ⟨calls ++ more, by rw [appendedMore, appended, List.append_assoc], ?_⟩
  intro request result member
  obtain member | member := List.mem_append.1 member
  · exact allowed request result member
  · exact allowedMore request result member

omit [RecordStore ε] in
theorem request {request : RadioRequest} {requests : List RadioRequest}
    (allowed : request ∈ requests) (env : Journaled ε) :
    MakesOnly requests env (RadioStack.request request env).2 := by
  refine ⟨[.radio request (RadioStack.request request env.env).1], rfl, ?_⟩
  intro other result member
  cases List.mem_singleton.1 member
  exact allowed

omit [RecordStore ε] in
theorem of_answers {row requests : List RadioRequest} {env last : Journaled ε}
    (answers : Answers row env last) (allowed : row ⊆ requests) : MakesOnly requests env last := by
  induction answers with
  | done => exact .refl _ _
  | next answered rest ih =>
    exact (request (allowed List.mem_cons_self) _).trans
      (ih fun _ member => allowed (List.mem_cons_of_mem _ member))

omit [RecordStore ε] in
theorem of_refuses {row requests : List RadioRequest} {error : StackError} {env last : Journaled ε}
    (refuses : Refuses row error env last) (allowed : row ⊆ requests) :
    MakesOnly requests env last := by
  induction refuses with
  | here refused => exact request (allowed List.mem_cons_self) _
  | later answered rest ih =>
    exact (request (allowed List.mem_cons_self) _).trans
      (ih fun _ member => allowed (List.mem_cons_of_mem _ member))

omit [RecordStore ε] in
theorem of_asks {row requests : List RadioRequest} {device target : Device (Journaled ε)}
    {result : EStateM.Result Fault (Device (Journaled ε)) Unit}
    (asks : Asks row device target result) (allowed : row ⊆ requests) :
    MakesOnly requests device.env (Controller.final result).env := by
  cases asks with
  | answered answers => exact of_answers answers allowed
  | refused refuses => exact of_refuses refuses allowed

omit [RadioStack ε] [RecordStore ε] in
theorem bind {requests : List RadioRequest} {device : Device (Journaled ε)}
    {first rest : ControlM (Journaled ε) Unit}
    (makes : MakesOnly requests device.env (Controller.final (first device)).env)
    (continues : ∀ next, MakesOnly requests next.env (Controller.final (rest next)).env) :
    MakesOnly requests device.env (Controller.final ((first >>= fun _ => rest) device)).env := by
  refine Controller.final_bind (fun next => MakesOnly requests device.env next.env) makes ?_
  intro next made
  exact made.trans (continues next)

end MakesOnly

open Controller

omit [RadioStack ε] in
theorem saveRanking_makes (requests : List RadioRequest) (device : Device (Journaled ε)) :
    MakesOnly requests device.env (final (saveRanking device)).env := by
  have written : MakesOnly requests device.env (device.ranking.persist device.env).2 :=
    ⟨_, rfl, by simp⟩
  have saves := saveRanking_saves device
  generalize saveRanking device = result at saves
  cases saves with
  | spared => exact .refl _ _
  | done => exact written
  | failed => exact written

omit [RecordStore ε] in
theorem eraseWhenDown_makes {requests : List RadioRequest} (allowed : .forgetBonds ∈ requests)
    (device : Device (Journaled ε)) :
    MakesOnly requests device.env (final (eraseWhenDown device)).env := by
  have only : [.forgetBonds] ⊆ requests := List.cons_subset.2 ⟨allowed, List.nil_subset _⟩
  have erases := eraseWhenDown_erases device
  generalize eraseWhenDown device = result at erases
  cases erases with
  | spared keeps => exact .refl _ _
  | refused pending down refuses => exact .of_refuses refuses only
  | erased pending down answers => exact .of_answers answers only

/-- A tick has nothing to stop. -/
theorem tick_makes {device : Device (Journaled ε)} (calm : Calm sound device) :
    MakesOnly [.start device.profile device.window, .forgetBonds] device.env
      (final (tick device)).env := by
  rw [tick_apply calm.clear]
  -- Only the first of the three parts could ask for a stop.
  refine MakesOnly.bind (.of_asks (reconcile_asks device) ?_) fun reconciled =>
    MakesOnly.bind (eraseWhenDown_makes (by simp) reconciled) fun erased =>
      saveRanking_makes _ erased
  unfold Device.reconcileRequests
  split
  · next differs =>
    have wanted := (calm.toFlagsAgree.missing differs.2).1
    rw [if_pos wanted]
    exact List.cons_subset_cons _ (List.nil_subset _)
  · exact List.nil_subset _

/-- In a run in which the stack refuses nothing, the link and the flags never contradict each
other.  A tick that is not refused leaves what is wanted running, and no tick stops anything. -/
theorem flags_agree_throughout {ranking : Ranking} {env : Journaled ε} {reserved : Nat}
    {started session : Session (Journaled ε)}
    (powered : Session.powerUp ranking env reserved = .ok started)
    (run : CleanRun started session) :
    (session.device.link.handle?.isSome ↔ session.device.link ≠ .down) ∧
    FlagsAgree session.device ∧
    ((∀ error, (session.perform .tick).1 ≠ .error (.stack error)) →
      session.device.link = .down →
      (session.perform .tick).2.device.running = (session.perform .tick).2.device.wanted) ∧
    ∃ calls, (session.perform .tick).2.device.env.calls = session.device.env.calls ++ calls ∧
      ∀ result, Call.radio .stop result ∉ calls := by
  have wired := (Session.powerUp_eq_ok powered).1
  have calm := run.calm .trivial wired (.powerUp powered trivial)
  refine ⟨by cases session.device.link <;> simp [Link.handle?], calm.toFlagsAgree, ?_, ?_⟩
  · intro returned down
    exact ((tick_survives .trivial calm).control returned).settled down
  · obtain ⟨calls, appended, allowed⟩ := tick_makes calm
    refine ⟨calls, ?_, fun result member => by simpa using allowed _ result member⟩
    rw [← appended, Session.perform, Session.control_apply]
    cases tick session.device <;> rfl

def nearPeer : PeerId := ⟨1, by decide⟩

/-- A session on a platform in memory, with one bonded peer. -/
def benchSession : Session (Journaled Platform) :=
  .fresh .empty (.new (.new [nearPeer] .empty))

/-- The started session advertises for its bonded peer. -/
theorem flags_agree_after_start :
    (benchSession.moved (.operation .start)).2.device.running = true ∧
    FlagsAgree (benchSession.moved (.operation .start)).2.device := by
  have run : CleanRun benchSession (benchSession.moved (.operation .start)).2 := by
    have answered : (benchSession.moved (.operation .start)).1 = .ok () := rfl
    have clear : (benchSession.moved (.operation .start)).2.device.fault = none := rfl
    exact .move .start _ ⟨by simp [answered], by simp [clear]⟩
  exact ⟨rfl, (flags_agree_throughout (Session.powerUp_fresh _ _) run).2.1⟩

end Journal

end BondedMouse
