import BondedMouse.Proofs.Controller.Issued
import BondedMouse.Proofs.Controller.Turns
import BondedMouse.Proofs.Session.Flags

/-! # The discipline of requests

A `Watch` follows the requests and the events of a run from outside: whether the stack
was told to advertise, which link is up, which whitelist was sent last.  `Allowed` says
which requests are in place then.  Advertising is started only when it is off and there
is no link, and then with the profile, the window and the whitelist of the present mode;
it is stopped only when it is on; the whitelist changes only when it is off; and a link
is asked to be dropped once.

What a watch knows agrees with the controller between two operations.  So every request
of an operation is in place, the one that the stack refuses included.
-/

namespace BondedMouse

variable {ε : Type}

/-! ## Following the requests -/

/-- What the requests and events of a run say of the radio. -/
structure Watch where
  /-- Advertising was started, and nothing has ended it since. -/
  on : Bool
  /-- The link that came up last, until it is reported down. -/
  link : Link
  /-- The whitelist that was sent last. -/
  sent : Option (List PeerId)

namespace Watch

def atPowerUp : Watch := ⟨false, .down, none⟩

def sees (watch : Watch) : RadioRequest → Watch
  | .start _ _ => { watch with on := true }
  | .stop => { watch with on := false }
  | .whitelist peers => { watch with sent := some peers }
  | .disconnect handle => { watch with link := .closing handle }
  | .identities _ | .forgetBonds | .movement _ _ => watch

def seesAll (watch : Watch) (requests : List RadioRequest) : Watch :=
  requests.foldl sees watch

/-- An event counts if the controller takes it up: a link if it holds none, the end of the link
that it holds, and the end of its present window. -/
def hears (watch : Watch) (controller : Controller) : RadioEvent → Watch
  | .connected _ handle =>
    if controller.link = .down then { watch with on := false, link := .up handle } else watch
  | .disconnected =>
    if controller.link = .down then watch else { watch with on := false, link := .down }
  | .timedOut window => if window = controller.window then { watch with on := false } else watch
  | .bonded _ | .storageFull | .bondsErased => watch

/-- At the beginning of an operation. -/
def begins (watch : Watch) (controller : Controller) : Operation → Watch
  | .event event => watch.hears controller event
  | _ => watch

end Watch

/-- The request is in place where a watch stands before it and the controller behind it. -/
def Allowed (controller : Controller) (watch : Watch) : RadioRequest → Prop
  | .start profile window =>
    watch.on = false ∧ watch.link = .down ∧ watch.sent = some controller.whitelist ∧
      controller.mode.profile? = some profile ∧ controller.window = window
  | .stop => watch.on = true
  | .whitelist _ | .identities _ => watch.on = false
  | .disconnect handle | .movement handle _ => watch.link = .up handle
  | .forgetBonds => True

/-- Each request of a row is in place when it is made. -/
def Orderly (controller : Controller) : Watch → List RadioRequest → Prop
  | _, [] => True
  | watch, request :: rest =>
    Allowed controller watch request ∧ Orderly controller (watch.sees request) rest

section Orderly

variable {controller other : Controller} {watch : Watch} {requests more : List RadioRequest}

theorem Watch.seesAll_append :
    watch.seesAll (requests ++ more) = (watch.seesAll requests).seesAll more :=
  List.foldl_append

theorem orderly_append :
    Orderly controller watch (requests ++ more) ↔
      Orderly controller watch requests ∧ Orderly controller (watch.seesAll requests) more := by
  induction requests generalizing watch with
  | nil => simp [Orderly, Watch.seesAll]
  | cons request rest ih => simp [Orderly, Watch.seesAll, ih, and_assoc]

theorem Orderly.of_isPrefix (orderly : Orderly controller watch more) (first : requests <+: more) :
    Orderly controller watch requests := by
  obtain ⟨rest, rfl⟩ := first
  exact (orderly_append.1 orderly).1

/-- In an orderly row each request is allowed where those before it have led. -/
theorem Orderly.allowed {request : RadioRequest}
    (orderly : Orderly controller watch (requests ++ request :: more)) :
    Allowed controller (watch.seesAll requests) request :=
  (orderly_append.1 orderly).2.1

/-- Of the controller only mode, window and whitelist count. -/
theorem Orderly.of_same {device after : Device ε}
    (orderly : Orderly device.toController watch requests)
    (same : SameWindow device after) : Orderly after.toController watch requests := by
  induction requests generalizing watch with
  | nil => trivial
  | cons request rest ih =>
    refine ⟨?_, ih orderly.2⟩
    have allowed := orderly.1
    cases request with
    | start profile window =>
      simp only [Allowed] at allowed ⊢
      rwa [same.whitelist, same.mode, same.window]
    | _ => exact allowed

end Orderly

/-- The watch stands where the controller does, as far as link and advertising go. -/
structure Watch.Tracks (watch : Watch) (controller : Controller) : Prop where
  on : watch.on = controller.running
  link : watch.link = controller.link

/-- Between two operations the watch knows the controller's whitelist too, and the profile is the
mode's. -/
structure Watch.Knows (watch : Watch) (controller : Controller) : Prop
    extends Tracks watch controller where
  fits : controller.mode ≠ .idle →
    controller.mode.profile? = some controller.profile ∧ watch.sent = some controller.whitelist

theorem Watch.knows_powerUp [RadioStack ε] {ranking : Ranking} {env : ε} {reserved : Nat}
    {session : Session ε} (powered : Session.powerUp ranking env reserved = .ok session) :
    Watch.atPowerUp.Knows session.device.toController := by
  obtain ⟨wired, scanTimer, timers, device⟩ := Session.powerUp_eq_ok powered
  rw [device]
  exact ⟨⟨rfl, rfl⟩, (absurd rfl ·)⟩

/-! ## Operations -/

section Operations

variable [RadioStack ε] [RecordStore ε] {watch : Watch} {env middle : ε}
  {device described : Device ε} {result : EStateM.Result Fault (Device ε) Unit}
  {requests : List RadioRequest}

open Controller

/-- An operation made orderly requests, and the watch knows the controller that it leaves behind,
unless the stack refused the last of them. -/
inductive Conducts (watch : Watch) (env : ε) : EStateM.Result Fault (Device ε) Unit → Prop
  | answered {requests : List RadioRequest} {result : EStateM.Result Fault (Device ε) Unit}
      (issues : Issues env requests (final result).env)
      (orderly : Orderly (final result).toController watch requests)
      (knows : (watch.seesAll requests).Knows (final result).toController) :
      Conducts watch env result
  | refused {requests : List RadioRequest} {error : StackError} {last : Device ε}
      (issued : Issued env requests last.env)
      (orderly : Orderly last.toController watch requests) :
      Conducts watch env (.error (.stack error) last)

namespace Conducts

theorem nothing (knows : watch.Knows device.toController) (stays : device.env = env) :
    Conducts watch env (.ok () device) := by
  subst stays
  exact .answered .none trivial knows

/-- Of an orderly row the requests up to the refused one are orderly. -/
theorem of_refuses {error : StackError} {last : Device ε}
    (refuses : Refuses requests error env last.env)
    (orderly : Orderly last.toController watch requests) :
    Conducts watch env (.error (.stack error) last) := by
  obtain ⟨made, first, issued⟩ := refuses.issued
  exact .refused issued (orderly.of_isPrefix first)

/-- Requests other than a start may come before. -/
theorem after (issues : Issues env requests middle)
    (orderly : ∀ controller, Orderly controller watch requests)
    (conducts : Conducts (watch.seesAll requests) middle result) : Conducts watch env result := by
  cases conducts with
  | answered more orderlyMore knows =>
    refine .answered (issues.trans more) (orderly_append.2 ⟨orderly _, orderlyMore⟩) ?_
    rwa [Watch.seesAll_append]
  | refused issued orderlyMore =>
    exact .refused (issues.issued issued) (orderly_append.2 ⟨orderly _, orderlyMore⟩)

/-- What follows may not touch the window. -/
theorem bind {first rest : ControlM ε Unit} (conducts : Conducts watch device.env (first device))
    (continues : ∀ (watch : Watch) (next : Device ε), watch.Knows next.toController →
      Conducts watch next.env (rest next))
    (same : ∀ next, SameWindow next (final (rest next))) :
    Conducts watch device.env ((first >>= fun _ => rest) device) := by
  rw [bind_apply]
  generalize first device = result at conducts
  cases conducts with
  | refused issued orderly => exact .refused issued orderly
  | @answered requests result issues orderly knows =>
    cases result with
    | error fault next => exact .answered issues orderly knows
    | ok value next =>
      have unchanged := orderly.of_same (same next)
      have more := continues _ next knows
      dsimp only
      generalize rest next = result at unchanged more
      cases more with
      | answered issuesMore orderlyMore knowsMore =>
        refine .answered (issues.trans issuesMore) (orderly_append.2 ⟨unchanged, orderlyMore⟩) ?_
        rwa [Watch.seesAll_append]
      | refused issued orderlyMore =>
        exact .refused (issues.issued issued) (orderly_append.2 ⟨unchanged, orderlyMore⟩)

end Conducts

theorem Asks.conducts {target : Device ε} (asks : Asks requests device target result)
    (orderly : Orderly target.toController watch requests)
    (knows : (watch.seesAll requests).Knows target.toController) :
    Conducts watch device.env result := by
  cases asks with
  | answered answers => exact .answered answers.issues orderly knows
  | @refused link wanted running error env refuses =>
    have same : SameWindow target { target with link, wanted, running, env } :=
      ⟨rfl, rfl, rfl, rfl, rfl⟩
    exact .of_refuses refuses (orderly.of_same same)

section Rows

omit [RadioStack ε] [RecordStore ε]

/-- A stop comes while something runs, and nothing runs behind it. -/
theorem Watch.Tracks.stopRequests (tracks : watch.Tracks device.toController)
    (flags : FlagsAgree device) (controller : Controller) :
    Orderly controller watch device.stopRequests ∧
      watch.seesAll device.stopRequests = { watch with on := false } := by
  unfold Device.stopRequests
  split
  · next runs => exact ⟨⟨tracks.on.trans runs.2, trivial⟩, rfl⟩
  · next quiet =>
    have off : watch.on = false := by
      rw [tracks.on]
      exact Bool.eq_false_iff.2 fun running => quiet ⟨(flags.runs running).2, running⟩
    refine ⟨trivial, ?_⟩
    rw [← off]
    rfl

/-- A link that is up is dropped once. -/
theorem orderly_dropRequests (watch : Watch) (controller : Controller) :
    Orderly controller watch watch.link.dropRequests ∧
      watch.seesAll watch.link.dropRequests = { watch with link := watch.link.dropped } := by
  obtain ⟨on, link, sent⟩ := watch
  cases link with
  | up handle => exact ⟨⟨rfl, trivial⟩, rfl⟩
  | down => exact ⟨trivial, rfl⟩
  | closing handle => exact ⟨trivial, rfl⟩

/-- The requests behind a stop start the window, unless there is a link. -/
theorem orderly_startRequests (watch : Watch) (device : Device ε) (off : watch.on = false)
    (link : watch.link = device.link)
    (sent : watch.sent = some device.whitelist)
    (profiled : device.mode.profile? = some device.profile) :
    Orderly device.toController watch device.silenced.startRequests ∧
      watch.seesAll device.silenced.startRequests =
        ⟨device.link = .down, device.link.dropped, some device.whitelist⟩ := by
  by_cases down : device.link = .down
  · have row : device.silenced.startRequests = [.start device.profile device.window] := by
      simp [Device.startRequests, Device.silenced, down]
    rw [row]
    refine ⟨⟨⟨off, link.trans down, sent, profiled, rfl⟩, trivial⟩, ?_⟩
    simp [Watch.seesAll, Watch.sees, link, sent, down, Link.dropped]
  · have row : device.silenced.startRequests = watch.link.dropRequests := by
      rw [Device.startRequests, link]
      exact if_neg down
    obtain ⟨orderly, seen⟩ := orderly_dropRequests watch device.toController
    rw [row]
    refine ⟨orderly, ?_⟩
    rw [seen, off, link, sent]
    simp [down]

theorem orderly_detectRequests (off : watch.on = false) (link : watch.link = device.link)
    (peer : PeerId) (controller : Controller) :
    Orderly controller watch (device.detectRequests peer) ∧
      watch.seesAll (device.detectRequests peer) =
        ⟨false, device.link.dropped, some (device.struck peer).whitelist⟩ := by
  obtain ⟨on, _, sent⟩ := watch
  subst off link
  obtain ⟨orderly, seen⟩ := orderly_dropRequests
    ⟨false, device.link, some (device.struck peer).whitelist⟩ controller
  rw [Device.detectRequests, orderly_append, Watch.seesAll_append]
  exact ⟨⟨⟨rfl, rfl, trivial⟩, orderly⟩, seen⟩

end Rows

theorem putInForce_conducts (flags : FlagsAgree device) (tracks : watch.Tracks device.toController)
    (describes : Describes device described) (stays : device.env = env) :
    Conducts watch env (putInForce described) := by
  subst stays
  have asks := (putInForce_asks described).of_env describes.env
  -- The described window differs from the one before in nothing that a stop depends on.
  have same : described.stopRequests = device.stopRequests := by
    rw [Device.stopRequests, Device.stopRequests, describes.link, describes.running]
  obtain ⟨stops, stopped⟩ := tracks.stopRequests flags described.silenced.advertised.toController
  have starts := orderly_startRequests { watch with on := false, sent := some described.whitelist }
    described rfl (tracks.link.trans describes.link.symm) rfl describes.profiled
  have row : watch.seesAll described.openingRequests =
      ⟨described.link = .down, described.link.dropped, some described.whitelist⟩ := by
    rw [Device.openingRequests, same, Watch.seesAll_append, Watch.seesAll_append, stopped]
    exact starts.2
  refine asks.conducts ?_ ?_
  · -- Stop, whitelist and start come in this order.
    rw [Device.openingRequests, same, orderly_append, orderly_append, Watch.seesAll_append, stopped]
    exact ⟨⟨stops, rfl, rfl, trivial⟩, starts.1.of_same ⟨rfl, rfl, rfl, rfl, rfl⟩⟩
  · rw [row]
    have quiet : described.link ≠ .down → described.running = false := by
      rw [describes.link, describes.running]
      exact flags.stopped
    refine ⟨⟨?_, rfl⟩, fun _ => ⟨describes.profiled, rfl⟩⟩
    by_cases down : described.link = .down
    · simp [Device.advertised, Device.silenced, down]
    · simp [Device.advertised, Device.silenced, down, quiet down]

theorem Closes.conducts (closes : Closes device result) (flags : FlagsAgree device)
    (tracks : watch.Tracks device.toController) : Conducts watch device.env result := by
  have stops := tracks.stopRequests flags
  cases closes with
  | refused refuses => exact .of_refuses refuses (stops _).1
  | @turned env answers =>
    have silenced : FlagsAgree { device.silenced with env } := { flags.silenced with }
    have off : Watch.Tracks { watch with on := false } { device.silenced with env }.toController :=
      ⟨flags.silenced_running.symm, tracks.link⟩
    refine .after answers.issues (fun controller => (stops controller).1) ?_
    rw [(stops device.toController).2]
    exact putInForce_conducts silenced off (.targets _) rfl

theorem Detects.conducts {peer : PeerId} (detects : Detects device peer result)
    (running : device.running = false) (advertises : device.mode ≠ .idle)
    (knows : watch.Knows device.toController) : Conducts watch device.env result := by
  have row := orderly_detectRequests (knows.on.trans running) knows.link peer
  cases detects with
  | refused refuses => exact .of_refuses refuses (row _).1
  | noted answers more =>
    refine .answered answers.issues (row _).1 ?_
    rw [(row device.toController).2]
    exact ⟨⟨running.symm, rfl⟩, fun _ => ⟨(knows.fits advertises).1, rfl⟩⟩
  | @complete env answers all =>
    have unwanted : FlagsAgree { device.detected peer with wanted := false, env } :=
      .unwanted rfl running
    refine .after answers.issues (fun controller => (row controller).1) ?_
    rw [(row device.toController).2]
    exact putInForce_conducts unwanted ⟨running.symm, rfl⟩ (.targets _) rfl

theorem dropLink_conducts (knows : watch.Knows device.toController) :
    Conducts watch device.env (dropLink device) := by
  obtain ⟨orderly, seen⟩ := orderly_dropRequests watch device.toController
  rw [knows.link] at orderly seen
  refine (dropLink_asks device).conducts (orderly.of_same ⟨rfl, rfl, rfl, rfl, rfl⟩) ?_
  rw [seen]
  exact ⟨⟨knows.on, rfl⟩, knows.fits⟩

theorem Receives.conducts {peer : Option PeerId} (receives : Receives device peer result)
    (running : device.running = false) (knows : watch.Knows device.toController) :
    Conducts watch device.env result := by
  cases receives with
  | ignored idle => exact .nothing knows rfl
  | paired mode => exact .nothing { knows with } rfl
  | kept meant => exact .nothing { knows with } rfl
  | dropped advertises stranger => exact dropLink_conducts knows
  | detected scans detects =>
    have advertises : device.mode ≠ .idle := by
      obtain ⟨mode | mode, phase⟩ := scans <;> simp [mode]
    exact detects.conducts running advertises knows

theorem Expires.conducts (expires : Expires device result) (flags : FlagsAgree device)
    (knows : watch.Knows device.stopped.toController) : Conducts watch device.env result := by
  have stopped : FlagsAgree device.stopped :=
    ⟨fun running => (by cases running), flags.kept, flags.idle⟩
  cases expires with
  | ignored undirected closed => exact .nothing knows rfl
  | rested mode => exact .nothing ⟨⟨knows.on, knows.link⟩, (absurd rfl ·)⟩ rfl
  | scanned mode phase => exact putInForce_conducts stopped knows.toTracks (.targets _) rfl
  | offered mode phase => exact putInForce_conducts stopped knows.toTracks (.next _) rfl

theorem onConnected_conducts (knows : watch.Knows device.toController) (peer : Option PeerId)
    (handle : LinkHandle) :
    Conducts (watch.hears device.toController (.connected peer handle)) device.env
      (onConnected peer handle device) := by
  by_cases down : device.link = .down
  · rw [Watch.hears, if_pos down]
    exact (onConnected_down peer handle down).conducts rfl ⟨⟨rfl, rfl⟩, knows.fits⟩
  · rw [Watch.hears, if_neg down, onConnected_linked peer handle down]
    exact .nothing knows rfl

theorem onDisconnected_conducts (flags : FlagsAgree device)
    (knows : watch.Knows device.toController) :
    Conducts (watch.hears device.toController .disconnected) device.env
      (onDisconnected device) := by
  rw [onDisconnected_apply]
  cases link : device.link with
  | down =>
    rw [Watch.hears, if_pos link]
    exact .nothing knows rfl
  | closing handle =>
    rw [Watch.hears, if_neg (by simp [link])]
    exact .nothing ⟨⟨rfl, rfl⟩, knows.fits⟩ rfl
  | up handle =>
    -- A kept link ended the wish to advertise.
    have freed : FlagsAgree device.unlinked := .unwanted (flags.kept handle link) rfl
    rw [Watch.hears, if_neg (by simp [link])]
    dsimp only
    split
    · exact putInForce_conducts freed ⟨rfl, rfl⟩ (.pairing _) rfl
    · exact putInForce_conducts freed ⟨rfl, rfl⟩ (.sequence _) rfl

theorem onTimedOut_conducts (flags : FlagsAgree device) (knows : watch.Knows device.toController)
    (window : Window) :
    Conducts (watch.hears device.toController (.timedOut window)) device.env
      (onTimedOut window device) := by
  by_cases present : window = device.window
  · subst present
    rw [Watch.hears, if_pos rfl]
    exact (onTimedOut_expires device).conducts flags ⟨⟨rfl, knows.link⟩, knows.fits⟩
  · rw [Watch.hears, if_neg present, onTimedOut_stale present]
    exact .nothing knows rfl

theorem Saves.conducts (saves : Saves device result) (knows : watch.Knows device.toController)
    (stays : device.env = env) : Conducts watch env result := by
  subst stays
  have written : Issues device.env [] (device.ranking.persist device.env).2 := Issues.none.write _ _
  cases saves with
  | spared => exact .nothing knows rfl
  | done => exact .answered written trivial { knows with }
  | failed => exact .answered written trivial { knows with }

theorem onBonded_conducts (knows : watch.Knows device.toController) (peer : PeerId) :
    Conducts watch device.env (onBonded peer device) := by
  rw [onBonded_apply]
  split
  · dsimp only
    split
    · exact (saveRanking_saves _).conducts { knows with } rfl
    · exact .nothing { knows with } rfl
  · exact .nothing knows rfl
  · exact .nothing knows rfl

theorem onStorageFull_conducts (knows : watch.Knows device.toController) :
    Conducts watch device.env (onStorageFull device) := by
  have reclaimed : Issues device.env [] (RecordStore.reclaim device.env).2 := Issues.none.reclaim
  unfold onStorageFull
  dsimp only
  split <;> exact .answered reclaimed trivial { knows with }

theorem startSequence_conducts (flags : FlagsAgree device)
    (knows : watch.Knows device.toController) :
    Conducts watch device.env (startSequence device) := by
  rw [startSequence_apply]
  exact putInForce_conducts flags knows.toTracks (.sequence _) rfl

theorem onEvent_conducts (flags : FlagsAgree device) (knows : watch.Knows device.toController)
    (event : RadioEvent) :
    Conducts (watch.hears device.toController event) device.env (onEvent event device) := by
  cases event with
  | connected peer handle => exact onConnected_conducts knows peer handle
  | disconnected => exact onDisconnected_conducts flags knows
  | bonded peer => exact onBonded_conducts knows peer
  | timedOut window => exact onTimedOut_conducts flags knows window
  | storageFull => exact onStorageFull_conducts knows
  | bondsErased => exact startSequence_conducts flags knows

theorem setMode_conducts (flags : FlagsAgree device) (knows : watch.Knows device.toController)
    (mode : Mode) (target : Option PeerId) :
    Conducts watch device.env (setMode mode target device) := by
  by_cases idle : mode = .idle
  · subst idle
    obtain ⟨orderly, seen⟩ := knows.stopRequests flags device.forRest.silenced.toController
    refine (silence_asks device.forRest).conducts orderly ?_
    change Watch.Knows (watch.seesAll device.stopRequests) _
    rw [seen]
    exact ⟨⟨flags.silenced_running.symm, knows.link⟩, (absurd rfl ·)⟩
  · obtain ⟨described, describes, opens⟩ := setMode_opens target device idle
    rw [opens]
    exact putInForce_conducts flags knows.toTracks describes rfl

theorem onRequest_conducts (flags : FlagsAgree device) (knows : watch.Knows device.toController)
    (request : Request) : Conducts watch device.env (onRequest request device) := by
  cases request with
  | moveCursor movement =>
    rw [onRequest_moveCursor]
    split
    · next up => exact (ask_asks _ device).conducts ⟨knows.link.trans up, trivial⟩ knows
    · exact .nothing knows rfl
    · exact .nothing knows rfl
  | pairingWindow =>
    rw [onRequest_pairingWindow]
    exact putInForce_conducts flags knows.toTracks (.pairing _) rfl
  | eraseBonds => exact .nothing { knows with } rfl
  | disconnect => exact dropLink_conducts knows

/-! ## Ticks and the start -/

theorem reconcile_conducts (flags : FlagsAgree device) (knows : watch.Knows device.toController) :
    Conducts watch device.env (reconcile device) := by
  have asks := reconcile_asks device
  unfold Device.reconcileRequests at asks
  split at asks
  · next differs =>
    obtain ⟨wanted, running⟩ := flags.missing differs.2
    have fits := knows.fits fun idle => by simp [flags.idle idle] at wanted
    rw [if_pos wanted] at asks
    -- The whitelist was sent when the window was opened.
    refine asks.conducts ⟨⟨knows.on.trans running, knows.link.trans differs.1, fits.2, fits.1, rfl⟩,
      trivial⟩ ⟨⟨?_, knows.link⟩, knows.fits⟩
    simp [Watch.seesAll, Watch.sees, Device.reconciled, differs.1, wanted]
  · next same =>
    refine asks.conducts trivial ⟨⟨?_, knows.link⟩, knows.fits⟩
    rw [Watch.seesAll, List.foldl_nil, knows.on, Device.reconciled]
    split
    · next down => simpa [down, eq_comm] using same
    · rfl

theorem eraseWhenDown_conducts (knows : watch.Knows device.toController) :
    Conducts watch device.env (eraseWhenDown device) := by
  have orderly (controller : Controller) : Orderly controller watch [.forgetBonds] :=
    ⟨trivial, trivial⟩
  have erases := eraseWhenDown_erases device
  generalize eraseWhenDown device = result at erases
  cases erases with
  | spared keeps => exact .nothing knows rfl
  | refused pending down refuses => exact .of_refuses refuses (orderly _)
  | erased pending down answers => exact .answered answers.issues (orderly _) { knows with }

theorem tick_conducts (flags : FlagsAgree device) (knows : watch.Knows device.toController) :
    Conducts watch device.env (tick device) := by
  cases recorded : device.fault with
  | some fault =>
    rw [tick_fault recorded]
    exact .answered .none trivial { knows with }
  | none =>
    rw [tick_apply recorded]
    refine (reconcile_conducts flags knows).bind (fun watch next knows => ?_) fun next => ?_
    · exact (eraseWhenDown_conducts knows).bind
        (fun watch next knows => (saveRanking_saves next).conducts knows rfl)
        fun next => (saveRanking_saves next).sameWindow
    · exact .bind (eraseWhenDown_sameWindow next)
        fun erased => (saveRanking_saves erased).sameWindow

theorem start_conducts (flags : FlagsAgree device) (knows : watch.Knows device.toController) :
    Conducts watch device.env (start device) := by
  have pruned : FlagsAgree device.restored.pruned := { flags with }
  have read : Issues device.env [] device.restored.env := by
    rw [Device.env_restored]
    exact Issues.none.read _ _
  refine .after read (fun _ => trivial) ?_
  rw [start_apply]
  have stays : device.restored.pruned.forSequence.env = device.restored.env :=
    (Describes.sequence device.restored.pruned).env
  rw [← stays]
  refine .bind ?_ (fun watch next knows => (saveRanking_saves next).conducts knows rfl)
    fun next => (saveRanking_saves next).sameWindow
  exact putInForce_conducts pruned { knows.toTracks with } (.sequence _) stays.symm

end Operations

/-! ## Sessions -/

section Sessions

variable [RadioStack ε] [RecordStore ε] {watch : Watch} {sound : Ranking → Prop}

/-- What an operation of a session does: orderly requests, behind which the watch knows the
controller, unless the stack refused one. -/
def Session.Conducted (watch : Watch) (session : Session ε) (operation : Operation) : Prop :=
  ∃ requests, Issued session.device.env requests (session.perform operation).2.device.env ∧
    Orderly (session.perform operation).2.device.toController watch requests ∧
    (session.Untroubled (.operation operation) →
      (watch.seesAll requests).Knows (session.perform operation).2.device.toController)

namespace Conducts

variable {env : ε} {result : EStateM.Result Fault (Device ε) Unit}

/-- The requests, with the refused one as the last. -/
theorem requests (conducts : Conducts watch env result) :
    ∃ requests, Issued env requests (Controller.final result).env ∧
      Orderly (Controller.final result).toController watch requests ∧
      ((∀ error last, result ≠ .error (.stack error) last) →
        (watch.seesAll requests).Knows (Controller.final result).toController) := by
  cases conducts with
  | answered issues orderly knows => exact ⟨_, .answered issues, orderly, fun _ => knows⟩
  | refused issued orderly => exact ⟨_, issued, orderly, fun answered => absurd rfl (answered _ _)⟩

theorem control {operation : ControlM ε Unit} {session : Session ε}
    (conducts : Conducts watch session.device.env (operation session.device)) :
    ∃ requests, Issued session.device.env requests (session.control operation).2.device.env ∧
      Orderly (session.control operation).2.device.toController watch requests ∧
      ((∀ error, (session.control operation).1 ≠ .error (.stack error)) →
        (watch.seesAll requests).Knows (session.control operation).2.device.toController) := by
  obtain ⟨requests, issued, orderly, knows⟩ := conducts.requests
  rw [Session.control_device]
  refine ⟨requests, issued, orderly, fun returned => knows fun error last refused => ?_⟩
  exact returned error (by rw [Session.control_apply, refused])

end Conducts

theorem Rings.conducts {device last : Device ε} (rings : Rings device last)
    (flags : FlagsAgree device) (knows : watch.Knows device.toController) :
    ∃ requests, Issued device.env requests last.env ∧ Orderly last.toController watch requests ∧
      ((∀ error, last.fault ≠ some (.stack error)) →
        (watch.seesAll requests).Knows last.toController) := by
  cases rings with
  | ignored quiet => exact ⟨[], .answered .none, trivial, fun _ => knows⟩
  | closed mode phase closes ok =>
    subst ok
    obtain ⟨requests, issued, orderly, knows⟩ := (closes.conducts flags knows.toTracks).requests
    exact ⟨requests, issued, orderly, fun _ => knows (by simp)⟩
  | @failed result fault next mode phase closes error =>
    subst error
    have same : SameWindow next { next with fault := some fault } := ⟨rfl, rfl, rfl, rfl, rfl⟩
    obtain ⟨requests, issued, orderly, knows⟩ := (closes.conducts flags knows.toTracks).requests
    refine ⟨requests, issued, orderly.of_same same, fun recorded => ?_⟩
    obtain ⟨refusal, rfl⟩ := closes.error rfl
    exact absurd rfl (recorded refusal)

theorem Session.perform_conducted {session : Session ε} (wired : session.Wired)
    (flags : FlagsAgree session.device) (knows : watch.Knows session.device.toController)
    (operation : Operation) :
    session.Conducted (watch.begins session.device.toController operation) operation := by
  have controlled {operation : Operation} {program : ControlM ε Unit} {watch : Watch}
      (performs : session.perform operation = session.control program)
      (conducts : Conducts watch session.device.env (program session.device)) :
      session.Conducted watch operation := by
    obtain ⟨requests, issued, orderly, knows⟩ := conducts.control
    rw [← performs] at issued orderly knows
    exact ⟨requests, issued, orderly, fun untroubled => knows untroubled.returned⟩
  cases operation with
  | start => exact controlled rfl (start_conducts flags knows)
  | startSequence => exact controlled rfl (startSequence_conducts flags knows)
  | setMode mode target => exact controlled rfl (setMode_conducts flags knows mode target)
  | event event => exact controlled rfl (onEvent_conducts flags knows event)
  | request request => exact controlled rfl (onRequest_conducts flags knows request)
  | tick => exact controlled rfl (tick_conducts flags knows)
  | scanTimeout =>
    obtain ⟨requests, issued, orderly, knows⟩ :=
      (Controller.onScanTimer_rings session.device).conducts flags knows
    exact ⟨requests, issued, orderly, fun untroubled => knows untroubled.recorded⟩
  | timerTick => exact ⟨[], .answered .none, trivial, fun _ => knows⟩
  | timerStep =>
    -- The timers are not part of what a watch knows.
    have stepped : ∃ requests, Issued session.device.env requests session.timerStep.device.env ∧
        Orderly session.timerStep.device.toController watch requests ∧
        ((∀ error, session.timerStep.device.fault ≠ some (.stack error)) →
          (watch.seesAll requests).Knows session.timerStep.device.toController) := by
      have steps := Session.timerStep_steps wired
      generalize session.timerStep.device = last at steps
      cases steps with
      | quiet timers => exact ⟨[], .answered .none, trivial, fun _ => knows⟩
      | rung before after rung rings => exact rings.conducts { flags with } knows
    obtain ⟨requests, issued, orderly, knows⟩ := stepped
    exact ⟨requests, issued, orderly, fun untroubled => knows untroubled.recorded⟩

end Sessions

/-! ## Runs -/

section Runs

open Simulation

variable [RadioStack ε] [RecordStore ε]

/-- The requests to the stack that the journal lists for an operation. -/
def Session.requests (session : Session (Journaled ε)) (operation : Operation) :
    List RadioRequest :=
  ((session.perform operation).2.device.env.calls.drop session.device.env.calls.length).filterMap
    Call.request?

/-- The sessions that a run reaches in which the stack refuses nothing, and where a watch stands
that follows the run. -/
inductive WatchedRun (started : Session (Journaled ε)) : Watch → Session (Journaled ε) → Prop
  | start : WatchedRun started .atPowerUp started
  | operation {watch : Watch} {session : Session (Journaled ε)}
      (run : WatchedRun started watch session) (operation : Operation)
      (untroubled : session.Untroubled (.operation operation)) :
      WatchedRun started
        ((watch.begins session.device.toController operation).seesAll (session.requests operation))
        (session.perform operation).2
  | outside {watch : Watch} {session : Session (Journaled ε)}
      (run : WatchedRun started watch session) (env : ε) :
      WatchedRun started watch
        (session.moved (.outside { session.device.env with env })).2

variable {ranking : Ranking} {env : Journaled ε} {reserved : Nat} {watch : Watch}
  {started session : Session (Journaled ε)}

theorem Session.requests_of_issued {operation : Operation} {requests : List RadioRequest}
    (issued : Issued session.device.env requests (session.perform operation).2.device.env) :
    session.device.env.calls <+: (session.perform operation).2.device.env.calls ∧
      session.requests operation = requests := by
  obtain ⟨calls, appended, listed⟩ := Journaled.shows_of_issued issued
  refine ⟨⟨calls, appended.symm⟩, ?_⟩
  rw [Session.requests, appended, List.drop_left, listed]

namespace WatchedRun

theorem cleanRun (run : WatchedRun started watch session)
    (powered : Session.powerUp ranking env reserved = .ok started) : CleanRun started session := by
  induction run with
  | start => exact .start
  | operation run operation untroubled ih => exact .move ih (.operation operation) untroubled
  | @outside watch session run env ih =>
    have wired := (Session.powerUp_eq_ok powered).1
    have clear := (ih.calm .trivial wired (.powerUp powered trivial)).clear
    refine .move ih _ ⟨by simp [Session.moved], fun error recorded => ?_⟩
    have none : session.device.fault = some (.stack error) := recorded
    simp [clear] at none

theorem knows (run : WatchedRun started watch session)
    (powered : Session.powerUp ranking env reserved = .ok started) :
    watch.Knows session.device.toController := by
  induction run with
  | start => exact Watch.knows_powerUp powered
  | outside run env ih => exact ih
  | operation run operation untroubled ih =>
    have clean := run.cleanRun powered
    have wired := (Session.powerUp_eq_ok powered).1
    have calm := clean.calm .trivial wired (.powerUp powered trivial)
    obtain ⟨requests, issued, orderly, knows⟩ :=
      Session.perform_conducted (clean.wired wired) calm.toFlagsAgree ih operation
    rw [(Session.requests_of_issued issued).2]
    exact knows untroubled

end WatchedRun

/-- In a run in which the stack refuses nothing, each operation makes its requests in good order,
also one that ends in a refusal.

The orderly row is read against the controller behind the operation.  That is the one that made
a start: nothing changes mode, window or whitelist behind it. -/
theorem requests_in_order (powered : Session.powerUp ranking env reserved = .ok started)
    (run : WatchedRun started watch session) (operation : Operation) :
    watch.on = session.device.running ∧ watch.link = session.device.link ∧
    session.device.env.calls <+: (session.perform operation).2.device.env.calls ∧
    Orderly (session.perform operation).2.device.toController
      (watch.begins session.device.toController operation) (session.requests operation) := by
  have knows := run.knows powered
  have clean := run.cleanRun powered
  have wired := (Session.powerUp_eq_ok powered).1
  have calm := clean.calm .trivial wired (.powerUp powered trivial)
  obtain ⟨requests, issued, orderly, -⟩ :=
    Session.perform_conducted (clean.wired wired) calm.toFlagsAgree knows operation
  obtain ⟨continued, listed⟩ := Session.requests_of_issued issued
  rw [← listed] at orderly
  exact ⟨knows.on, knows.link, continued, orderly⟩

/-- A peer that answers the scan is off the whitelist before it is told to leave. -/
theorem requests_in_order_on_detection :
    let started := (benchSession.perform .start).2
    let detection : Operation := .event (.connected (some nearPeer) ⟨7⟩)
    started.requests detection = [.whitelist [], .identities [], .disconnect ⟨7⟩] ∧
    Orderly (started.perform detection).2.device.toController
      ⟨false, .up ⟨7⟩, some [nearPeer]⟩ (started.requests detection) := by
  have answered : (benchSession.perform .start).1 = .ok () := rfl
  have clear : (benchSession.perform .start).2.device.fault = none := rfl
  have run := WatchedRun.operation (.start : WatchedRun benchSession _ _) .start
    ⟨by simp [Session.moved, answered], by simp [Session.moved, clear]⟩
  have started := requests_in_order (Session.powerUp_fresh _ _) run
    (.event (.connected (some nearPeer) ⟨7⟩))
  exact ⟨rfl, started.2.2.2⟩

end Runs

end BondedMouse
