import BondedMouse.Proofs.Session.Windows

/-! # The course of a session

Mode, window, directed sequence and timers change together.  A move leaves them alone,
notes a detection, or opens the window that follows: after a scan, after a directed
window, or at the start of a new sequence.  `Goes` says which, for every move that the
firmware makes and whatever the stack and the store answer; the constructors say which
moves turn to the next target and which begin a new sequence.

Beside the course stands the wish to advertise.  It is known only of moves of which the
stack refuses nothing; that is the condition `clean`.
-/

namespace BondedMouse

variable {ε : Type}

/-! ## Changes beside the course -/

/-- Mode, window, sequence and timers are the same on both devices. -/
structure SameCourse (device other : Device ε) : Prop where
  mode : other.mode = device.mode
  window : other.window = device.window
  sequence : other.sequence = device.sequence
  timers : other.timers = device.timers
  scanTimer : other.scanTimer = device.scanTimer

theorem SameCourse.refl (device : Device ε) : SameCourse device device := ⟨rfl, rfl, rfl, rfl, rfl⟩

theorem SameCourse.trans {device middle last : Device ε} (first : SameCourse device middle)
    (rest : SameCourse middle last) : SameCourse device last :=
  ⟨rest.mode.trans first.mode, rest.window.trans first.window, rest.sequence.trans first.sequence,
    rest.timers.trans first.timers, rest.scanTimer.trans first.scanTimer⟩

/-- The wish to advertise outlives a link, unless the link is kept. -/
def KeepsWish (device after : Device ε) : Prop :=
  (∃ handle, after.link = .up handle) ∨
    (∀ handle, device.link ≠ .up handle) ∧ after.wanted = device.wanted

theorem KeepsWish.of_same {device after : Device ε} (link : after.link = device.link)
    (wanted : after.wanted = device.wanted) : KeepsWish device after := by
  by_cases up : ∃ handle, device.link = .up handle
  · rw [← link] at up
    exact .inl up
  · exact .inr ⟨fun handle here => up ⟨handle, here⟩, wanted⟩

/-- The stack refused nothing, as far as the result tells. -/
def Unrefused (result : EStateM.Result Fault (Device ε) Unit) : Prop :=
  ∀ error device, result ≠ .error (.stack error) device

theorem unrefused_ok (device : Device ε) : Unrefused (.ok () device) := by
  intro error last refused
  cases refused

theorem Asks.of_unrefused [RadioStack ε] {requests : List RadioRequest} {device target : Device ε}
    {result : EStateM.Result Fault (Device ε) Unit} (asks : Asks requests device target result)
    (clean : Unrefused result) : ∃ env, result = .ok () { target with env } := by
  cases asks with
  | answered answers => exact ⟨_, rfl⟩
  | refused refuses => exact absurd rfl (clean _ _)

theorem Asks.sameCourse [RadioStack ε] {requests : List RadioRequest} {device target : Device ε}
    {result : EStateM.Result Fault (Device ε) Unit} (asks : Asks requests device target result) :
    SameCourse target (Controller.final result) := by
  cases asks <;> exact ⟨rfl, rfl, rfl, rfl, rfl⟩

/-- An operation changes neither the course nor, if it is clean, the link and the wish. -/
structure Beside (device : Device ε) (clean : Prop) (after : Device ε) : Prop
    extends SameCourse device after where
  link : clean → after.link = device.link
  wanted : clean → after.wanted = device.wanted

namespace Beside

variable {device target : Device ε} {result : EStateM.Result Fault (Device ε) Unit}

theorem refl (device : Device ε) (clean : Prop) : Beside device clean device :=
  ⟨.refl device, fun _ => rfl, fun _ => rfl⟩

theorem of_same {clean : Prop} {after : Device ε} (same : SameCourse device after)
    (link : after.link = device.link) (wanted : after.wanted = device.wanted) :
    Beside device clean after :=
  ⟨same, fun _ => link, fun _ => wanted⟩

theorem of_asks [RadioStack ε] {requests : List RadioRequest} {other : Device ε}
    (asks : Asks requests other target result) (same : SameCourse device target)
    (link : target.link = device.link) (wanted : target.wanted = device.wanted) :
    Beside device (Unrefused result) (Controller.final result) where
  toSameCourse := same.trans asks.sameCourse
  link := fun clean => by
    obtain ⟨env, rfl⟩ := asks.of_unrefused clean
    exact link
  wanted := fun clean => by
    obtain ⟨env, rfl⟩ := asks.of_unrefused clean
    exact wanted

theorem of_saves [RecordStore ε] (saves : Saves device result) :
    Beside device (Unrefused result) (Controller.final result) := by
  cases saves with
  | spared => exact .refl device _
  | done => exact of_same ⟨rfl, rfl, rfl, rfl, rfl⟩ rfl rfl
  | failed => exact of_same ⟨rfl, rfl, rfl, rfl, rfl⟩ rfl rfl

theorem bind {first rest : ControlM ε Unit}
    (beside : Beside device (Unrefused (first device)) (Controller.final (first device)))
    (continues : ∀ next, Beside next (Unrefused (rest next)) (Controller.final (rest next))) :
    Beside device (Unrefused ((first >>= fun _ => rest) device))
      (Controller.final ((first >>= fun _ => rest) device)) := by
  rw [Controller.bind_apply]
  generalize first device = result at beside
  cases result with
  | error fault next => exact beside
  | ok value next =>
    -- The first operation was answered, so it is clean whatever follows.
    have more := continues next
    exact ⟨beside.toSameCourse.trans more.toSameCourse,
      fun clean => (more.link clean).trans (beside.link (unrefused_ok next)),
      fun clean => (more.wanted clean).trans (beside.wanted (unrefused_ok next))⟩

end Beside

/-! ## The ways to go on -/

section Courses

variable [RadioStack ε] [RecordStore ε]

/-- The windows that may follow, but for those of the directed sequence's own turns. -/
inductive Follows (device : Device ε) : Device ε → Prop
  | rest : Follows device device.forRest
  | pairing : Follows device device.forPairing
  | targets {middle : Device ε} (scans : device.Scans) (same : SameCourse device middle) :
      Follows device middle.forTargets
  | completed {middle : Device ε} (scans : device.Scans) (peer : PeerId)
      (same : SameCourse (device.noted peer) middle) : Follows device middle.forTargets

/-- How an operation goes on that neither turns to the next target nor begins a sequence. -/
inductive Course (device : Device ε) (clean : Prop) (after : Device ε) : Prop
  | stays (same : SameCourse device after) (wish : clean → KeepsWish device after)
  | noted (scans : device.Scans) (peer : PeerId) (same : SameCourse (device.noted peer) after)
      (wish : clean → KeepsWish device after)
  | opened {described : Device ε} (follows : Follows device described)
      (same : SameCourse described after)
      (wish : clean → after.mode = .idle ∨ after.wanted = true)

omit [RecordStore ε] in
theorem Course.mono {device after : Device ε} {clean other : Prop} (course : Course device clean after)
    (implies : other → clean) : Course device other after := by
  cases course with
  | stays same wish => exact .stays same fun holds => wish (implies holds)
  | noted scans peer same wish => exact .noted scans peer same fun holds => wish (implies holds)
  | opened follows same wish => exact .opened follows same fun holds => wish (implies holds)

omit [RecordStore ε] in
theorem Beside.course {device after : Device ε} {clean : Prop} (beside : Beside device clean after) :
    Course device clean after :=
  .stays beside.toSameCourse fun holds => .of_same (beside.link holds) (beside.wanted holds)

open Controller

omit [RecordStore ε] in
/-- A window that is put into force is wanted, unless the stack refuses. -/
theorem putInForce_wanted {described : Device ε} (clean : Unrefused (putInForce described)) :
    (final (putInForce described)).wanted = true := by
  obtain ⟨env, ended⟩ := (putInForce_asks described).of_unrefused clean
  rw [ended]
  rfl

omit [RecordStore ε] in
theorem putInForce_sameCourse (described : Device ε) :
    SameCourse described (final (putInForce described)) := by
  have shifted : SameCourse described described.silenced.advertised := ⟨rfl, rfl, rfl, rfl, rfl⟩
  exact shifted.trans (putInForce_asks described).sameCourse

omit [RecordStore ε] in
theorem Follows.course {device described : Device ε} (follows : Follows device described) :
    Course device (Unrefused (putInForce described)) (final (putInForce described)) :=
  .opened follows (putInForce_sameCourse described) fun clean => .inr (putInForce_wanted clean)

/-! ## Operations -/

section Operations

variable {device : Device ε} {result : EStateM.Result Fault (Device ε) Unit}

omit [RecordStore ε] in
theorem Closes.course (scans : device.Scans) (closes : Closes device result) :
    Course device (Unrefused result) (final result) := by
  cases closes with
  | refused refuses => exact .stays ⟨rfl, rfl, rfl, rfl, rfl⟩ fun clean => absurd rfl (clean _ _)
  | @turned env answers =>
    have same : SameCourse device { device.silenced with env } := ⟨rfl, rfl, rfl, rfl, rfl⟩
    exact (Follows.targets scans same).course

omit [RecordStore ε] in
theorem Receives.course {central : Option PeerId} {handle : LinkHandle} (down : device.link = .down)
    (receives : Receives (device.linked central handle) central result) :
    Course device (Unrefused result) (final result) := by
  have unheld : ∀ handle, device.link ≠ .up handle := by simp [down]
  cases receives with
  | ignored idle => exact .stays ⟨rfl, rfl, rfl, rfl, rfl⟩ fun _ => .inl ⟨handle, rfl⟩
  | paired mode => exact .stays ⟨rfl, rfl, rfl, rfl, rfl⟩ fun _ => .inl ⟨handle, rfl⟩
  | kept meant => exact .stays ⟨rfl, rfl, rfl, rfl, rfl⟩ fun _ => .inl ⟨handle, rfl⟩
  | dropped advertises stranger =>
    have asks := dropLink_asks (device.linked central handle)
    have linked : SameCourse device { device.linked central handle with
        link := (device.linked central handle).link.dropped } := ⟨rfl, rfl, rfl, rfl, rfl⟩
    refine .stays (linked.trans asks.sameCourse) fun clean => .inr ⟨unheld, ?_⟩
    obtain ⟨env, ended⟩ := asks.of_unrefused clean
    rw [ended]
    rfl
  | @detected peer result scanning detects =>
    have scans : device.Scans := scanning
    cases detects with
    | refused refuses => exact .stays ⟨rfl, rfl, rfl, rfl, rfl⟩ fun clean => absurd rfl (clean _ _)
    | noted answers more =>
      exact .noted scans peer ⟨rfl, rfl, rfl, rfl, rfl⟩ fun _ => .inr ⟨unheld, rfl⟩
    | @complete env answers all =>
      have same : SameCourse (device.noted peer)
          { (device.linked (some peer) handle).detected peer with wanted := false, env } :=
        ⟨rfl, rfl, rfl, rfl, rfl⟩
      exact (Follows.completed scans peer same).course

omit [RecordStore ε] in
theorem onConnected_course (peer : Option PeerId) (handle : LinkHandle) (device : Device ε) :
    Course device (Unrefused (onConnected peer handle device))
      (final (onConnected peer handle device)) := by
  by_cases down : device.link = .down
  · exact (onConnected_down peer handle down).course down
  · rw [onConnected_linked peer handle down]
    exact (Beside.refl device _).course

omit [RadioStack ε] in
theorem onBonded_beside (peer : PeerId) (device : Device ε) :
    Beside device (Unrefused (onBonded peer device)) (final (onBonded peer device)) := by
  rw [onBonded_apply]
  split
  · dsimp only
    split
    · have saved := Beside.of_saves (saveRanking_saves { device with
        bondedLink := true, ranking := (device.ranking.insert peer).2, unsaved := true })
      have bonded : SameCourse device { device with
        bondedLink := true, ranking := (device.ranking.insert peer).2, unsaved := true } :=
        ⟨rfl, rfl, rfl, rfl, rfl⟩
      exact ⟨bonded.trans saved.toSameCourse, saved.link, saved.wanted⟩
    · exact .of_same ⟨rfl, rfl, rfl, rfl, rfl⟩ rfl rfl
  · exact .refl device _
  · exact .refl device _

omit [RadioStack ε] in
theorem onStorageFull_beside (device : Device ε) :
    Beside device (Unrefused (onStorageFull device)) (final (onStorageFull device)) := by
  unfold onStorageFull
  dsimp only
  split <;> exact .of_same ⟨rfl, rfl, rfl, rfl, rfl⟩ rfl rfl

omit [RecordStore ε] in
theorem eraseWhenDown_beside (device : Device ε) :
    Beside device (Unrefused (eraseWhenDown device)) (final (eraseWhenDown device)) := by
  have erases := eraseWhenDown_erases device
  generalize eraseWhenDown device = result at erases
  cases erases with
  | spared keeps => exact .refl device _
  | refused pending down refuses =>
    exact ⟨⟨rfl, rfl, rfl, rfl, rfl⟩, fun clean => absurd rfl (clean _ _),
      fun clean => absurd rfl (clean _ _)⟩
  | erased pending down answers => exact .of_same ⟨rfl, rfl, rfl, rfl, rfl⟩ rfl rfl

theorem tick_beside (device : Device ε) :
    Beside device (Unrefused (tick device)) (final (tick device)) := by
  cases recorded : device.fault with
  | some fault =>
    rw [tick_fault recorded]
    exact .of_same ⟨rfl, rfl, rfl, rfl, rfl⟩ rfl rfl
  | none =>
    rw [tick_apply recorded]
    exact .bind (.of_asks (reconcile_asks device) ⟨rfl, rfl, rfl, rfl, rfl⟩ rfl rfl) fun reconciled =>
      .bind (eraseWhenDown_beside reconciled) fun erased => .of_saves (saveRanking_saves erased)

omit [RecordStore ε] in
theorem Rings.course {last : Device ε} (rings : Rings device last) :
    Course device (∀ error, last.fault ≠ some (.stack error)) last := by
  cases rings with
  | ignored quiet => exact (Beside.refl device _).course
  | closed mode phase closes ok =>
    have course := closes.course ⟨.inl mode, phase⟩
    rw [ok] at course
    exact course.mono fun _ => unrefused_ok last
  -- Only a refusal ends the closing early, and then its fault is recorded.
  | @failed result fault next mode phase closes error =>
    have course := closes.course ⟨.inl mode, phase⟩
    obtain ⟨refusal, rfl⟩ := closes.error error
    rw [error] at course
    have recorded : SameCourse next { next with fault := some (.stack refusal) } :=
      ⟨rfl, rfl, rfl, rfl, rfl⟩
    cases course with
    | stays same => exact .stays (same.trans recorded) fun clean => absurd rfl (clean refusal)
    | noted scans peer same =>
      exact .noted scans peer (same.trans recorded) fun clean => absurd rfl (clean refusal)
    | opened follows same =>
      exact .opened follows (same.trans recorded) fun clean => absurd rfl (clean refusal)

end Operations

/-! ## Moves -/

/-- The window in force runs out. -/
def Move.Expires (move : Move ε) (device : Device ε) : Prop :=
  move = .operation (.event (.timedOut device.window))

/-- The moves that begin a new directed sequence.  The loss of a link does, unless it was that of a
central that was pairing. -/
inductive Move.Resets (device : Device ε) : Move ε → Prop
  | start : Resets device (.operation .start)
  | startSequence : Resets device (.operation .startSequence)
  | bondsErased : Resets device (.operation (.event .bondsErased))
  | linkLost {handle : LinkHandle} (up : device.link = .up handle)
      (paired : device.bondedLink = true ∨ device.mode ≠ .pairing) :
      Resets device (.operation (.event .disconnected))

/-- A new sequence has begun, with the scan that it begins with. -/
inductive Restarts (device : Device ε) (clean : Prop) (after : Device ε) : Prop
  | intro {middle : Device ε} (same : SameCourse device middle)
      (opened : SameCourse middle.forSequence after) (wish : clean → after.wanted = true)

/-- How a session goes on. -/
inductive Goes (device : Device ε) (move : Move ε) (clean : Prop) (after : Device ε) : Prop
  | on (course : Course device clean after)
  /-- The timers were changed before and behind, as by the scheduler. -/
  | clocked {before timers : TimerPool} {rung : Device ε}
      (timed : move = .operation .timerTick ∨ move = .operation .timerStep)
      (course : Course { device with timers := before } clean rung)
      (ends : after = { rung with timers })
  | turned (expires : move.Expires device) (mode : device.mode = .directed)
      (phase : device.sequence.phase = .connection) (same : SameCourse device.stopped.forNext after)
      (wish : clean → after.wanted = true)
  | restarted (resets : move.Resets device) (restarts : Restarts device clean after)
  /-- The user lets go of a link that was kept. -/
  | released {handle : LinkHandle} (request : move = .operation (.request .disconnect))
      (up : device.link = .up handle) (same : SameCourse device after)
      (closing : clean → after.link = .closing handle)

omit [RecordStore ε] in
theorem Restarts.mono {device after : Device ε} {clean other : Prop}
    (restarts : Restarts device clean after) (implies : other → clean) :
    Restarts device other after := by
  obtain ⟨same, opened, wish⟩ := restarts
  exact ⟨same, opened, fun holds => wish (implies holds)⟩

omit [RecordStore ε] in
theorem Goes.mono {device after : Device ε} {move : Move ε} {clean other : Prop}
    (goes : Goes device move clean after) (implies : other → clean) : Goes device move other after := by
  cases goes with
  | on course => exact .on (course.mono implies)
  | clocked timed course ends => exact .clocked timed (course.mono implies) ends
  | turned expires mode phase same wish =>
    exact .turned expires mode phase same fun holds => wish (implies holds)
  | restarted resets restarts => exact .restarted resets (restarts.mono implies)
  | released request up same closing =>
    exact .released request up same fun holds => closing (implies holds)

section Operations

variable {device : Device ε}

omit [RecordStore ε] in
theorem putInForce_restarts {middle : Device ε} (same : SameCourse device middle) :
    Restarts device (Unrefused (putInForce middle.forSequence))
      (final (putInForce middle.forSequence)) :=
  ⟨same, putInForce_sameCourse _, putInForce_wanted⟩

omit [RecordStore ε] in
theorem startSequence_restarts (device : Device ε) :
    Restarts device (Unrefused (startSequence device)) (final (startSequence device)) := by
  rw [startSequence_apply]
  exact putInForce_restarts (.refl device)

omit [RecordStore ε] in
theorem onDisconnected_restarts {handle : LinkHandle} (up : device.link = .up handle)
    (paired : device.bondedLink = true ∨ device.mode ≠ .pairing) :
    Restarts device (Unrefused (onDisconnected device)) (final (onDisconnected device)) := by
  rw [onDisconnected_apply, up]
  dsimp only
  split
  · next unpaired => simp_all
  · exact putInForce_restarts ⟨rfl, rfl, rfl, rfl, rfl⟩

theorem start_restarts (device : Device ε) :
    Restarts device (Unrefused (start device)) (final (start device)) := by
  have pruned : SameCourse device device.restored.pruned := ⟨rfl, rfl, rfl, rfl, rfl⟩
  have opened := putInForce_sameCourse device.restored.pruned.forSequence
  have wanted : Unrefused (putInForce device.restored.pruned.forSequence) →
      (final (putInForce device.restored.pruned.forSequence)).wanted = true := putInForce_wanted
  rw [start_apply, bind_apply]
  generalize putInForce device.restored.pruned.forSequence = result at opened wanted
  cases result with
  | error fault next => exact ⟨pruned, opened, wanted⟩
  | ok value next =>
    -- Storing the ranking is beside the window that was opened.
    have saved := Beside.of_saves (saveRanking_saves next)
    exact ⟨pruned, opened.trans saved.toSameCourse, fun clean =>
      (saved.wanted clean).trans (wanted (unrefused_ok next))⟩

omit [RecordStore ε] in
theorem onDisconnected_goes (device : Device ε) :
    Goes device (.operation (.event .disconnected)) (Unrefused (onDisconnected device))
      (final (onDisconnected device)) := by
  cases link : device.link with
  | down =>
    rw [onDisconnected_apply, link]
    exact .on (Beside.refl device _).course
  | closing handle =>
    rw [onDisconnected_apply, link]
    exact .on (.stays ⟨rfl, rfl, rfl, rfl, rfl⟩ fun _ => .inr ⟨by simp [link], rfl⟩)
  | up handle =>
    by_cases paired : device.bondedLink = true ∨ device.mode ≠ .pairing
    · exact .restarted (.linkLost link paired) (onDisconnected_restarts link paired)
    · have freed : SameCourse device.forPairing device.unlinked.forPairing :=
        ⟨rfl, rfl, rfl, rfl, rfl⟩
      have unpaired : device.bondedLink = false ∧ device.mode = .pairing := by simpa using paired
      rw [onDisconnected_apply, link]
      simp only [unpaired]
      exact .on (.opened .pairing (freed.trans (putInForce_sameCourse _)) fun clean =>
        .inr (putInForce_wanted clean))

omit [RecordStore ε] in
theorem onTimedOut_goes (window : Window) (device : Device ε) :
    Goes device (.operation (.event (.timedOut window))) (Unrefused (onTimedOut window device))
      (final (onTimedOut window device)) := by
  by_cases present : window = device.window
  · subst present
    have expires := onTimedOut_expires device
    generalize onTimedOut device.window device = result at expires
    cases expires with
    | ignored undirected closed =>
      exact .on (.stays ⟨rfl, rfl, rfl, rfl, rfl⟩ fun _ => .of_same rfl rfl)
    | rested mode =>
      exact .on (.opened .rest ⟨rfl, rfl, rfl, rfl, rfl⟩ fun _ => .inl rfl)
    | scanned mode phase =>
      have same : SameCourse device device.stopped := ⟨rfl, rfl, rfl, rfl, rfl⟩
      exact .on (Follows.targets ⟨.inr mode, phase⟩ same).course
    | offered mode phase =>
      exact .turned rfl mode phase (putInForce_sameCourse _) putInForce_wanted
  · rw [onTimedOut_stale present]
    exact .on (Beside.refl device _).course

theorem onEvent_goes (event : RadioEvent) (device : Device ε) :
    Goes device (.operation (.event event)) (Unrefused (onEvent event device))
      (final (onEvent event device)) := by
  cases event with
  | connected peer handle => exact .on (onConnected_course peer handle device)
  | disconnected => exact onDisconnected_goes device
  | bonded peer => exact .on (onBonded_beside peer device).course
  | timedOut window => exact onTimedOut_goes window device
  | storageFull => exact .on (onStorageFull_beside device).course
  | bondsErased => exact .restarted .bondsErased (startSequence_restarts device)

omit [RecordStore ε] in
theorem onRequest_goes (request : Request) (device : Device ε) :
    Goes device (.operation (.request request)) (Unrefused (onRequest request device))
      (final (onRequest request device)) := by
  cases request with
  | eraseBonds => exact .on (.stays ⟨rfl, rfl, rfl, rfl, rfl⟩ fun _ => .of_same rfl rfl)
  | pairingWindow =>
    rw [onRequest_pairingWindow]
    exact .on Follows.pairing.course
  | moveCursor movement =>
    rw [onRequest_moveCursor]
    split
    · exact .on (Beside.of_asks (ask_asks _ device) (.refl device) rfl rfl).course
    · exact .on (Beside.refl device _).course
    · exact .on (Beside.refl device _).course
  | disconnect =>
    have asks := dropLink_asks device
    rw [onRequest]
    cases link : device.link with
    | up handle =>
      have closed : SameCourse device { device with link := device.link.dropped } :=
        ⟨rfl, rfl, rfl, rfl, rfl⟩
      refine .released rfl link (closed.trans asks.sameCourse) fun clean => ?_
      obtain ⟨env, ended⟩ := asks.of_unrefused clean
      rw [ended]
      simp [final, link, Link.dropped]
    -- Without a link that is kept there is nothing to drop.
    | down =>
      rw [dropLink_apply, link]
      exact .on (Beside.refl device _).course
    | closing handle =>
      rw [dropLink_apply, link]
      exact .on (Beside.refl device _).course

end Operations

omit [RadioStack ε] [RecordStore ε] in
theorem Session.unrefused_of_control {operation : ControlM ε Unit} {session : Session ε}
    (returned : ∀ error, (session.control operation).1 ≠ .error (.stack error)) :
    Unrefused (operation session.device) := by
  intro error device failed
  rw [Session.control_apply, failed] at returned
  exact absurd rfl (returned error)

theorem Session.moved_goes {session : Session ε} (wired : session.Wired) {move : Move ε}
    (regular : move.Regular) :
    Goes session.device move (session.Untroubled move) (session.moved move).2.device := by
  have controlled : ∀ {operation : ControlM ε Unit} {move : Move ε},
      session.moved move = session.control operation →
      Goes session.device move (Unrefused (operation session.device))
        (final (operation session.device)) →
      Goes session.device move (session.Untroubled move) (session.moved move).2.device := by
    intro operation move runs goes
    have device : (session.moved move).2.device = final (operation session.device) := by
      rw [runs, Session.control_device]
    rw [device]
    refine goes.mono fun untroubled => Session.unrefused_of_control ?_
    rw [← runs]
    exact untroubled.returned
  cases move with
  | outside env => exact .on (.stays ⟨rfl, rfl, rfl, rfl, rfl⟩ fun _ => .of_same rfl rfl)
  | operation operation =>
    cases operation with
    | setMode mode target => exact regular.elim
    | start => exact controlled rfl (.restarted .start (start_restarts _))
    | startSequence => exact controlled rfl (.restarted .startSequence (startSequence_restarts _))
    | event event => exact controlled rfl (onEvent_goes event _)
    | request request => exact controlled rfl (onRequest_goes request _)
    | tick => exact controlled rfl (.on (tick_beside _).course)
    | scanTimeout =>
      exact .on ((onScanTimer_rings session.device).course.mono Session.Untroubled.recorded)
    | timerTick =>
      exact .clocked (.inl rfl) (Beside.refl session.device _).course rfl
    | timerStep =>
      have steps := Session.timerStep_steps wired
      have recorded : session.Untroubled (.operation .timerStep) →
          ∀ error, session.timerStep.device.fault ≠ some (.stack error) :=
        Session.Untroubled.recorded
      change Goes session.device _ _ session.timerStep.device
      generalize session.timerStep.device = last at steps recorded
      cases steps with
      | quiet timers =>
        exact .clocked (.inr rfl) (Beside.refl session.device _).course rfl
      | rung before after rung rings =>
        exact .clocked (.inr rfl) (rings.course.mono recorded) rfl

theorem Move.Resets.restarts {session : Session ε} {move : Move ε}
    (resets : move.Resets session.device) :
    Restarts session.device False (session.moved move).2.device := by
  cases resets with
  | start =>
    rw [Session.moved, Session.perform, Session.control_device]
    exact (start_restarts _).mono False.elim
  | startSequence =>
    rw [Session.moved, Session.perform, Session.control_device]
    exact (startSequence_restarts _).mono False.elim
  | bondsErased =>
    rw [Session.moved, Session.perform, Session.control_device]
    exact (startSequence_restarts _).mono False.elim
  | linkLost up paired =>
    rw [Session.moved, Session.perform, Session.control_device]
    exact (onDisconnected_restarts up paired).mono False.elim

end Courses

end BondedMouse
