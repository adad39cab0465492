import BondedMouse.Firmware.Engine
import BondedMouse.Proofs.Radio.Postings
import BondedMouse.Proofs.Session.Flags

/-! # The commands behind the flags

On the firmware's platform the flag `running` does not say what the advertiser does but
what it was told last.  `Orders` states that for an operation: the last command that it
posts fits the flags it leaves behind, and without a command it leaves them alone.

A report of the advertiser changes the flags without a command.  That first part of
handling a report is split off as `Device.received`.
-/

namespace BondedMouse

open Controller Firmware

/-! ## Orders -/

variable {before middle after device described : Device Platform}
  {result : EStateM.Result Fault (Device Platform) Unit} {requests : List RadioRequest}

/-- How the flags that an operation leaves behind fit the last command that it posted. -/
def Obeys (before after : Device Platform) : Option AdvertiserCommand → Prop
  | none => after.running = before.running ∧
      (after.running = true → after.profile = before.profile ∧ after.window = before.window)
  | some .stop => after.running = false
  | some (.start profile window) =>
    after.running = true ∧ after.profile = profile ∧ after.window = window

theorem Obeys.stopped (before : device.running = false) (after : described.running = false) :
    Obeys device described none :=
  ⟨after.trans before.symm, fun runs => by simp [after] at runs⟩

/-- What an operation tells the advertiser. -/
structure Orders (before after : Device Platform) : Prop where
  down : after.link = .down ↔ before.link = .down
  reports : after.env.1.reports = before.env.1.reports
  posted : ∃ commands, after.env.1.commands.items = before.env.1.commands.items ++ commands ∧
    Obeys before after commands.getLast?

namespace Orders

/-- An operation that posts nothing and leaves the flags alone. -/
theorem of_eq (link : after.link = before.link) (running : after.running = before.running)
    (profile : after.profile = before.profile) (window : after.window = before.window)
    (unit : after.env.1 = before.env.1) : Orders before after where
  down := by rw [link]
  reports := by rw [unit]
  posted := ⟨[], by rw [unit, List.append_nil], running, fun _ => ⟨profile, window⟩⟩

/-- An operation that posts nothing while nothing runs. -/
theorem stopped (down : after.link = .down ↔ before.link = .down) (off : before.running = false)
    (stays : after.running = false) (unit : after.env.1 = before.env.1) : Orders before after where
  down := down
  reports := by rw [unit]
  posted := ⟨[], by rw [unit, List.append_nil], .stopped off stays⟩

theorem refl (device : Device Platform) : Orders device device := .of_eq rfl rfl rfl rfl rfl

theorem trans (first : Orders before middle) (rest : Orders middle after) : Orders before after where
  down := rest.down.trans first.down
  reports := rest.reports.trans first.reports
  posted := by
    obtain ⟨commands, appended, obeyed⟩ := first.posted
    obtain ⟨more, appendedMore, obeyedMore⟩ := rest.posted
    refine ⟨commands ++ more, by rw [appendedMore, appended, List.append_assoc], ?_⟩
    -- The last command of the two is the second's, unless it posts none.
    rw [List.getLast?_append]
    cases last : more.getLast? with
    | some command =>
      rw [last] at obeyedMore
      cases command <;> exact obeyedMore
    | none =>
      rw [last] at obeyedMore
      obtain ⟨running, described⟩ := obeyedMore
      cases earlier : commands.getLast? with
      | none =>
        rw [earlier] at obeyed
        refine ⟨running.trans obeyed.1, fun runs => ?_⟩
        obtain ⟨profile, window⟩ := described runs
        obtain ⟨sameProfile, sameWindow⟩ := obeyed.2 (running.symm.trans runs)
        exact ⟨profile.trans sameProfile, window.trans sameWindow⟩
      | some command =>
        rw [earlier] at obeyed
        cases command with
        | stop => exact running.trans obeyed
        | start =>
          have runs := running.trans obeyed.1
          obtain ⟨profile, window⟩ := described runs
          exact ⟨runs, profile.trans obeyed.2.1, window.trans obeyed.2.2⟩

theorem of_answers {env : Platform} {target : Device Platform}
    (answers : Answers requests device.env env) (down : target.link = .down ↔ device.link = .down)
    (obeys : Obeys device target (requests.filterMap RadioRequest.command?).getLast?) :
    Orders device { target with env } where
  down := down
  reports := answers.reports
  posted := by
    refine ⟨_, answers.commands, ?_⟩
    cases last : (requests.filterMap RadioRequest.command?).getLast? with
    | none => rw [last] at obeys; exact obeys
    | some command => rw [last] at obeys; cases command <;> exact obeys

end Orders

theorem Asks.orders {target : Device Platform} (asks : Asks requests device target result)
    (down : target.link = .down ↔ device.link = .down)
    (obeys : Obeys device target (requests.filterMap RadioRequest.command?).getLast?) :
    Survives (Orders device) result :=
  asks.survives_of_answers fun _ answers => .of_answers answers down obeys

theorem Saves.orders (saves : Saves device result) : Survives (Orders device) result := by
  have unit : (device.ranking.persist device.env).2.1 = device.env.1 := rfl
  cases saves with
  | spared => exact .refl device
  | done => exact .of_eq rfl rfl rfl rfl unit
  | failed => exact .of_eq rfl rfl rfl rfl unit

theorem Survives.then_orders {first rest : ControlM Platform Unit}
    (orders : Survives (Orders before) (first device))
    (continues : ∀ next, Orders before next → Survives (Orders next) (rest next)) :
    Survives (Orders before) ((first >>= fun _ => rest) device) :=
  orders.bind fun next orders => (continues next orders).mono fun _ more => orders.trans more

/-! ## Windows -/

theorem commands_stopRequests (device : Device Platform) :
    device.stopRequests.filterMap RadioRequest.command? =
      if device.link = .down ∧ device.running then [.stop] else [] := by
  unfold Device.stopRequests
  split <;> rfl

theorem obeys_silenced (flags : FlagsAgree device) (link : described.link = device.link)
    (running : described.running = device.running) :
    Obeys device described.silenced
      (described.stopRequests.filterMap RadioRequest.command?).getLast? := by
  have silenced : described.silenced.running = false := by
    rw [Device.silenced, link, running]
    exact flags.silenced_running
  rw [commands_stopRequests, link, running]
  by_cases runs : device.link = .down ∧ device.running
  · rw [if_pos runs]
    exact silenced
  · rw [if_neg runs]
    -- Nothing is posted, so nothing may have been running.
    refine .stopped ?_ silenced
    exact Bool.eq_false_iff.2 fun running => runs ⟨(flags.runs running).2, running⟩

/-- A window that is put into force is started in the end, unless there is a link. -/
theorem commands_openingRequests (device : Device Platform) :
    device.openingRequests.filterMap RadioRequest.command? =
      if device.link = .down then
        (if device.running then [.stop] else []) ++ [.start device.profile device.window]
      else [] := by
  rw [Device.openingRequests, List.filterMap_append, List.filterMap_append, commands_stopRequests,
    Device.startRequests, Device.silenced]
  cases link : device.link with
  | down => cases device.running <;> rfl
  | up handle => rfl
  | closing handle => rfl

theorem putInForce_orders (describes : Describes device described) (flags : FlagsAgree device) :
    Survives (Orders device) (putInForce described) := by
  have link := describes.link
  have running := describes.running
  refine ((putInForce_asks described).of_env describes.env).orders ?_ ?_
  · rw [← link]
    exact Link.dropped_eq_down_iff
  · rw [commands_openingRequests, link]
    -- Without a link the row ends with the start; with one it posts nothing.
    by_cases down : device.link = .down
    · rw [if_pos down, List.getLast?_concat]
      exact ⟨by simp [Device.silenced, Device.advertised, link, down], rfl, rfl⟩
    · have stopped : described.silenced.advertised.running = false := by
        simp [Device.silenced, Device.advertised, running, link, flags.stopped down, down]
      rw [if_neg down]
      exact .stopped (flags.stopped down) stopped

theorem Closes.orders (closes : Closes device result) (flags : FlagsAgree device) :
    Survives (Orders device) result := by
  cases closes with
  | refused refuses => trivial
  | @turned env answers =>
    -- The stop comes first, and the start of the next window has the last word.
    have silenced : FlagsAgree { device.silenced with env } := { flags.silenced with }
    have first : Orders device { device.silenced with env } :=
      .of_answers answers Iff.rfl (obeys_silenced flags rfl rfl)
    exact (putInForce_orders (.targets _) silenced).mono fun _ rest => first.trans rest

theorem commands_detectRequests (device : Device Platform) (peer : PeerId) :
    (device.detectRequests peer).filterMap RadioRequest.command? = [] := by
  unfold Device.detectRequests
  cases device.link <;> rfl

theorem Detects.orders {peer : PeerId} (detects : Detects device peer result)
    (stopped : device.running = false) : Survives (Orders device) result := by
  cases detects with
  | refused refuses => trivial
  | noted answers more =>
    apply Orders.of_answers answers Link.dropped_eq_down_iff
    rw [commands_detectRequests]
    exact .stopped stopped stopped
  | @complete env answers all =>
    have first : Orders device
        { ({ device.detected peer with wanted := false } : Device Platform) with env } := by
      apply Orders.of_answers answers Link.dropped_eq_down_iff
      rw [commands_detectRequests]
      exact .stopped stopped stopped
    have flags : FlagsAgree { device.detected peer with wanted := false, env } :=
      .unwanted rfl stopped
    exact (putInForce_orders (.targets _) flags).mono fun _ rest => first.trans rest

theorem dropLink_orders (device : Device Platform) : Survives (Orders device) (dropLink device) := by
  apply (dropLink_asks device).orders Link.dropped_eq_down_iff
  cases device.link <;> exact ⟨rfl, fun _ => ⟨rfl, rfl⟩⟩

theorem Receives.orders {peer : Option PeerId} (receives : Receives device peer result)
    (stopped : device.running = false) : Survives (Orders device) result := by
  cases receives with
  | ignored idle => exact .refl device
  | paired mode => exact .of_eq rfl rfl rfl rfl rfl
  | kept meant => exact .of_eq rfl rfl rfl rfl rfl
  | dropped advertises stranger => exact dropLink_orders device
  | detected scans detects => exact detects.orders stopped

theorem Expires.orders (expires : Expires device result) (flags : FlagsAgree device) :
    Survives (Orders device.stopped) result := by
  have stopped : FlagsAgree device.stopped := ⟨nofun, flags.kept, flags.idle⟩
  cases expires with
  | ignored undirected closed => exact .refl device.stopped
  | rested mode => exact .stopped Iff.rfl rfl rfl rfl
  | scanned mode phase => exact putInForce_orders (.targets _) stopped
  | offered mode phase => exact putInForce_orders (.next _) stopped

/-! ## Events -/

/-- The first part of handling an event: link and flags are brought up to date with a report. -/
def Device.received (device : Device Platform) : RadioEvent → Device Platform
  | .connected peer handle => if device.link = .down then device.linked peer handle else device
  | .disconnected => if device.link = .down then device else device.unlinked
  | .timedOut window => if window = device.window then device.stopped else device
  | .bonded _ | .storageFull | .bondsErased => device

@[simp] theorem Device.env_received (device : Device Platform) (event : RadioEvent) :
    (device.received event).env = device.env := by
  cases event with
  | connected | disconnected | timedOut =>
    rw [received]
    split <;> rfl
  | bonded | storageFull | bondsErased => rfl

variable {sound : Ranking → Prop}

theorem onConnected_orders (peer : Option PeerId) (handle : LinkHandle) :
    Survives (Orders (device.received (.connected peer handle))) (onConnected peer handle device) := by
  rw [Device.received]
  by_cases down : device.link = .down
  · rw [if_pos down]
    exact (onConnected_down peer handle down).orders rfl
  · rw [if_neg down, onConnected_linked peer handle down]
    exact .refl device

theorem onDisconnected_orders (calm : Calm sound device) :
    Survives (Orders (device.received .disconnected)) (onDisconnected device) := by
  rw [Device.received, onDisconnected_apply]
  cases link : device.link with
  | down =>
    rw [if_pos rfl]
    exact .refl device
  | closing handle =>
    rw [if_neg nofun]
    exact .refl device.unlinked
  | up handle =>
    rw [if_neg nofun]
    have freed : FlagsAgree device.unlinked := .unwanted (calm.kept handle link) rfl
    dsimp only
    split
    · exact putInForce_orders (.pairing _) freed
    · exact putInForce_orders (.sequence _) freed

theorem onTimedOut_orders (calm : Calm sound device) (window : Window) :
    Survives (Orders (device.received (.timedOut window))) (onTimedOut window device) := by
  rw [Device.received]
  by_cases present : window = device.window
  · subst present
    rw [if_pos rfl]
    exact (onTimedOut_expires device).orders calm.toFlagsAgree
  · rw [if_neg present, onTimedOut_stale present]
    exact .refl device

theorem onBonded_orders (peer : PeerId) : Survives (Orders device) (onBonded peer device) := by
  rw [onBonded_apply]
  split
  · have bonded : Orders device { device with
        bondedLink := true, ranking := (device.ranking.insert peer).2, unsaved := true } :=
      .of_eq rfl rfl rfl rfl rfl
    dsimp only
    split
    · exact (saveRanking_saves _).orders.mono fun _ saved => bonded.trans saved
    · exact .of_eq rfl rfl rfl rfl rfl
  · exact .refl device
  · exact .refl device

theorem onStorageFull_orders : Survives (Orders device) (onStorageFull device) := by
  unfold onStorageFull
  dsimp only
  split <;> exact .of_eq rfl rfl rfl rfl rfl

theorem startSequence_orders (calm : Calm sound device) :
    Survives (Orders device) (startSequence device) := by
  rw [startSequence_apply]
  exact putInForce_orders (.sequence _) calm.toFlagsAgree

theorem onEvent_orders (calm : Calm sound device) (event : RadioEvent) :
    Survives (Orders (device.received event)) (onEvent event device) := by
  cases event with
  | connected peer handle => exact onConnected_orders peer handle
  | disconnected => exact onDisconnected_orders calm
  | bonded peer => exact onBonded_orders peer
  | timedOut window => exact onTimedOut_orders calm window
  | storageFull => exact onStorageFull_orders
  | bondsErased => exact startSequence_orders calm

/-! ## The other operations -/

theorem onRequest_orders (calm : Calm sound device) (request : Request) :
    Survives (Orders device) (onRequest request device) := by
  cases request with
  | moveCursor movement =>
    rw [onRequest_moveCursor]
    split
    · exact (ask_asks _ device).orders Iff.rfl ⟨rfl, fun _ => ⟨rfl, rfl⟩⟩
    · exact .refl device
    · exact .refl device
  | pairingWindow =>
    rw [onRequest_pairingWindow]
    exact putInForce_orders (.pairing _) calm.toFlagsAgree
  | eraseBonds => exact .of_eq rfl rfl rfl rfl rfl
  | disconnect => exact dropLink_orders device

theorem setMode_orders (calm : Calm sound device) (mode : Mode) (target : Option PeerId) :
    Survives (Orders device) (setMode mode target device) := by
  by_cases idle : mode = .idle
  · subst idle
    have asks : Asks _ device _ (silence device.forRest) := (silence_asks _).of_env rfl
    exact asks.orders Iff.rfl (obeys_silenced calm.toFlagsAgree rfl rfl)
  · obtain ⟨described, describes, opens⟩ := setMode_opens target device idle
    rw [opens]
    exact putInForce_orders describes calm.toFlagsAgree

theorem reconcile_orders (device : Device Platform) :
    Survives (Orders device) (reconcile device) := by
  apply (reconcile_asks device).orders Iff.rfl
  unfold Device.reconcileRequests Device.reconciled
  -- The one command, if there is one, says what runs from now on.
  by_cases differs : device.link = .down ∧ device.wanted ≠ device.running
  · rw [if_pos differs]
    cases wanted : device.wanted with
    | true => exact ⟨if_pos differs.1, rfl, rfl⟩
    | false => exact if_pos differs.1
  · rw [if_neg differs]
    refine ⟨?_, fun _ => ⟨rfl, rfl⟩⟩
    -- Without a command either a link is in the way or the flags agree.
    by_cases down : device.link = .down
    · simpa [down] using differs
    · exact if_neg down

theorem eraseWhenDown_orders (device : Device Platform) :
    Survives (Orders device) (eraseWhenDown device) := by
  have erases := eraseWhenDown_erases device
  generalize eraseWhenDown device = result at erases
  cases erases with
  | spared keeps => exact .refl device
  | refused pending down refuses => trivial
  | @erased env pending down answers =>
    have asked : Orders device { device with env } :=
      .of_answers answers Iff.rfl ⟨rfl, fun _ => ⟨rfl, rfl⟩⟩
    exact asked.trans (.of_eq rfl rfl rfl rfl rfl)

theorem tick_orders (calm : Calm sound device) : Survives (Orders device) (tick device) := by
  rw [tick_apply calm.clear]
  exact (reconcile_orders device).then_orders fun reconciled _ =>
    (eraseWhenDown_orders reconciled).then_orders fun erased _ => (saveRanking_saves erased).orders

theorem start_orders (calm : Calm sound device) : Survives (Orders device) (start device) := by
  have unit : device.restored.env.1 = device.env.1 := by
    rw [Device.env_restored]
    rfl
  have restored : Orders device device.restored.pruned := .of_eq rfl rfl rfl rfl unit
  have flags : FlagsAgree device.restored.pruned := { calm.toFlagsAgree with }
  have opened : Survives (Orders device) (putInForce device.restored.pruned.forSequence) :=
    (putInForce_orders (.sequence _) flags).mono fun _ orders => restored.trans orders
  rw [start_apply]
  exact opened.then_orders fun next _ => (saveRanking_saves next).orders

/-- The end of the scan timer, unless a fault is recorded. -/
theorem Rings.orders {last : Device Platform} (rings : Rings device last)
    (calm : Calm sound device) (recorded : ∀ error, last.fault ≠ some (.stack error)) :
    Orders device last := by
  cases rings with
  | ignored quiet => exact .refl device
  | closed mode phase closes ok =>
    have orders := closes.orders calm.toFlagsAgree
    rw [ok] at orders
    exact orders
  | failed mode phase closes error =>
    obtain ⟨refusal, rfl⟩ := closes.error error
    exact absurd rfl (recorded refusal)

end BondedMouse
