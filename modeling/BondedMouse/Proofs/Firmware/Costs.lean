import BondedMouse.Proofs.Firmware.Orders
import BondedMouse.Proofs.Session.ScanTime

/-! # What operations cost

Each start and each stop of advertising takes a place among the advertiser's commands, of
which the channel holds four.  `Spends` bounds the places that an operation takes.  The
command that the next tick is to post is counted as taken already; so what an operation
only puts off is paid for by that operation and not by the tick.

`Fares` adds how an operation can fail.  Where every call to the radio firmware is
answered well, a full channel is the only reason.
-/

namespace BondedMouse

open Controller Firmware

/-! ## The channel of commands -/

/-- The calls to the radio firmware succeed, or fail with codes that are tolerated. -/
structure ReturnCodes.Willing (codes : ReturnCodes) : Prop where
  whitelist : codes.whitelist = 0
  identities : tolerate [.notSupported] (ReturnCode.result codes.identities) = .ok ()
  disconnect : tolerate [.invalidState] (ReturnCode.result codes.disconnect) = .ok ()
  notify : tolerate [.invalidState, .noResources, .sysAttrMissing, .busy]
    (ReturnCode.result codes.notify) = .ok ()

theorem ReturnCodes.Willing.of_zero {codes : ReturnCodes} (zero : codes = {}) : codes.Willing := by
  subst zero
  exact ⟨rfl, rfl, rfl, rfl⟩

/-- The channel has become full, which had less room than was demanded. -/
structure Crowded (demand : Nat) (before after : RadioUnit) : Prop where
  full : after.commands.items.length = 4
  short : 4 < before.commands.items.length + demand

/-- Between the two, items were sent and none was received. -/
structure Sends (before after : RadioUnit) : Prop where
  codes : after.board.codes = before.board.codes
  commands : before.commands.items <+: after.commands.items
  events : before.events.items <+: after.events.items

namespace Sends

theorem refl (unit : RadioUnit) : Sends unit unit :=
  ⟨rfl, List.prefix_rfl, List.prefix_rfl⟩

theorem of_eq {before after : RadioUnit} (same : after = before) : Sends before after :=
  same ▸ .refl after

theorem trans {before middle after : RadioUnit} (first : Sends before middle)
    (rest : Sends middle after) : Sends before after :=
  ⟨rest.codes.trans first.codes, first.commands.trans rest.commands,
    first.events.trans rest.events⟩

end Sends

namespace RadioUnit

theorem sends_postEvent (unit : RadioUnit) (event : RadioEvent) :
    Sends unit (unit.postEvent event) := by
  refine ⟨rfl, List.prefix_rfl, ?_⟩
  unfold postEvent Channel.sendOrDrop
  cases sent : unit.events.send? event with
  | none => exact List.prefix_rfl
  | some events =>
    simp only [Option.getD_some, Channel.send?_eq_some_iff.1 sent]
    exact List.prefix_append _ _

theorem sends_postCommand (unit : RadioUnit) (command : AdvertiserCommand) :
    Sends unit (unit.postCommand command).2 := by
  unfold postCommand
  cases sent : unit.commands.send? command with
  | none => exact .refl unit
  | some commands =>
    refine ⟨rfl, ?_, List.prefix_rfl⟩
    simp only [Channel.send?_eq_some_iff.1 sent]
    exact List.prefix_append _ _

theorem sends_request (unit : RadioUnit) (request : RadioRequest) :
    Sends unit (unit.request request).2 := by
  cases request with
  | start | stop => exact unit.sends_postCommand _
  | forgetBonds =>
    obtain ⟨codes, commands, events⟩ :=
      sends_postEvent { unit with bonds := .empty } .bondsErased
    exact ⟨codes, commands, events⟩
  | whitelist | identities | disconnect => exact ⟨rfl, List.prefix_rfl, List.prefix_rfl⟩
  | movement link movement =>
    unfold request moveCursor
    dsimp only
    split
    · exact .refl unit
    · split
      · exact .refl unit
      · exact ⟨rfl, List.prefix_rfl, List.prefix_rfl⟩

/-- A command is refused only by a full channel. -/
theorem postCommand_refused {unit : RadioUnit} {command : AdvertiserCommand}
    {allowed : List StackError} {error : StackError}
    (refused : tolerate allowed (unit.postCommand command).1 = .error (.stack error)) :
    error = .noResources ∧ unit.commands.items.length = 4 ∧ (unit.postCommand command).2 = unit := by
  unfold postCommand at refused ⊢
  cases sent : unit.commands.send? command with
  | none =>
    rw [sent] at refused
    obtain ⟨_, same, -, named⟩ := tolerate_eq_error_iff.1 refused
    cases same
    cases named
    exact ⟨rfl, Channel.send?_eq_none_iff.1 sent, rfl⟩
  | some commands =>
    rw [sent] at refused
    cases refused

/-- Of the requests only commands can be refused, if the calls are answered well. -/
theorem request_refused {unit : RadioUnit} {request : RadioRequest} {error : StackError}
    (willing : unit.board.codes.Willing)
    (refused : tolerate request.tolerated (unit.request request).1 = .error (.stack error)) :
    error = .noResources ∧ unit.commands.items.length = 4 ∧ (unit.request request).2 = unit ∧
      ∃ command, request.command? = some command := by
  cases request with
  | start profile window =>
    obtain ⟨named, full, same⟩ := postCommand_refused refused
    exact ⟨named, full, same, _, rfl⟩
  | stop =>
    obtain ⟨named, full, same⟩ := postCommand_refused refused
    exact ⟨named, full, same, _, rfl⟩
  | whitelist peers =>
    have answered : tolerate [] (ReturnCode.result unit.board.codes.whitelist) = .ok () := by
      rw [willing.whitelist]
      rfl
    cases answered.symm.trans refused
  | identities peers => cases willing.identities.symm.trans refused
  | disconnect link => cases willing.disconnect.symm.trans refused
  | forgetBonds => cases refused
  | movement link movement =>
    unfold request moveCursor at refused
    dsimp only at refused
    split at refused
    · cases refused
    · split at refused
      · cases refused
      · cases willing.notify.symm.trans refused

end RadioUnit

section Rows

variable {σ : Type} {requests : List RadioRequest} {env last : RadioUnit × σ}

theorem Answers.sends (answers : Answers requests env last) : Sends env.1 last.1 := by
  induction answers with
  | done => exact .refl _
  | @next request requests env last answered rest ih => exact (env.1.sends_request request).trans ih

theorem Refuses.crowded {error : StackError} (willing : env.1.board.codes.Willing)
    (refuses : Refuses requests error env last) :
    error = .noResources ∧
      Crowded (requests.filterMap RadioRequest.command?).length env.1 last.1 := by
  induction refuses with
  | @here request requests error env refused =>
    obtain ⟨named, full, same, command, commands⟩ := RadioUnit.request_refused willing refused
    refine ⟨named, ?_, ?_⟩
    · change (env.1.request request).2.commands.items.length = 4
      rw [same, full]
    · rw [List.filterMap_cons_some commands, List.length_cons, full]
      omega
  | @later request requests error env last answered rest ih =>
    have posted : (RadioStack.request request env).2.1.commands.items =
        env.1.commands.items ++ request.command?.toList := RadioUnit.commands_request answered
    have codes : (RadioStack.request request env).2.1.board.codes = env.1.board.codes :=
      (env.1.sends_request request).codes
    obtain ⟨named, crowded⟩ := ih (codes ▸ willing)
    refine ⟨named, crowded.full, ?_⟩
    have short := crowded.short
    rw [posted, List.length_append] at short
    rw [List.filterMap_cons]
    cases command : request.command? <;> simp [command] at short ⊢ <;> omega

end Rows

/-! ## Spending -/

/-- The number of commands that the next tick is to post. -/
def Device.owed {ε : Type} (device : Device ε) : Nat :=
  if device.link = .down ∧ device.wanted ≠ device.running then 1 else 0

namespace Device

variable {ε : Type} (device : Device ε)

theorem owed_le_one : device.owed ≤ 1 := by
  unfold owed
  split <;> decide

theorem owed_linked {device : Device ε} (linked : device.link ≠ .down) : device.owed = 0 :=
  if_neg fun differs => linked differs.1

theorem owed_agreed {device : Device ε}
    (agreed : device.link = .down → device.running = device.wanted) : device.owed = 0 :=
  if_neg fun differs => differs.2 (agreed differs.1).symm

theorem owed_advertised : device.advertised.owed = 0 :=
  owed_agreed fun down => by
    have free : device.link = .down := Link.dropped_eq_down_iff.1 down
    simp [advertised, free]

theorem commands_reconcileRequests :
    (device.reconcileRequests.filterMap RadioRequest.command?).length = device.owed := by
  unfold reconcileRequests owed
  split
  · split <;> rfl
  · rfl

/-- The number of commands that put the described window into force. -/
def openingCost (device : Device ε) : Nat :=
  (device.openingRequests.filterMap RadioRequest.command?).length

end Device

theorem openingCost_le (device : Device Platform) :
    device.openingCost ≤ device.running.toNat + 1 := by
  rw [Device.openingCost, commands_openingRequests]
  split
  · cases device.running <;> exact Nat.le_refl _
  · exact Nat.zero_le _

theorem openingCost_le_two (device : Device Platform) : device.openingCost ≤ 2 :=
  Nat.le_trans (openingCost_le device) (Nat.add_le_add_right (Bool.toNat_le device.running) 1)

theorem openingCost_le_one {device : Device Platform} (stopped : device.running = false) :
    device.openingCost ≤ 1 := by
  have bound := openingCost_le device
  rwa [stopped] at bound

theorem openingCost_linked {device : Device Platform} (linked : device.link ≠ .down) :
    device.openingCost = 0 := by
  rw [Device.openingCost, commands_openingRequests, if_neg linked]
  rfl

/-- The places that were taken, with what is owed, are no more than the cost.  None is taken
unless a window was opened. -/
structure Spends (cost : Nat) (before after : Device Platform) : Prop where
  sends : Sends before.env.1 after.env.1
  within : after.env.1.commands.items.length + after.owed ≤
    before.env.1.commands.items.length + before.owed + cost
  opens : after.env.1.commands.items.length = before.env.1.commands.items.length ∨
    after.window ≠ before.window

/-- The operation leaves a device with the property.  If not, and if the calls were answered well,
it has found the channel full. -/
def Fares (property : Device Platform → Prop) (demand : Nat) (before : Device Platform) :
    EStateM.Result Fault (Device Platform) Unit → Prop
  | .ok () after | .error (.storage _) after => property after
  | .error fault after => before.env.1.board.codes.Willing →
    fault = .stack .noResources ∧ Crowded demand before.env.1 after.env.1

/-- What an operation costs, beside what was owed before. -/
def Costs (cost : Nat) (before : Device Platform) :
    EStateM.Result Fault (Device Platform) Unit → Prop :=
  Fares (Spends cost before) (before.owed + cost) before

/-- The places that an event can cost, with what it leaves to the next tick. -/
def RadioEvent.cost : RadioEvent → Nat
  | .bondsErased => 2
  | .disconnected | .timedOut _ => 1
  | .connected _ _ | .bonded _ | .storageFull => 0

/-- The places that a request can cost. -/
def Request.cost : Request → Nat
  | .pairingWindow => 2
  | .moveCursor _ | .eraseBonds | .disconnect => 0

section Operations

variable {before device target described : Device Platform}
  {result : EStateM.Result Fault (Device Platform) Unit} {requests : List RadioRequest}
  {property : Device Platform → Prop} {cost demand : Nat}

theorem Spends.spared (unit : target.env.1 = device.env.1)
    (within : target.owed ≤ device.owed + cost) : Spends cost device target where
  sends := .of_eq unit
  within := by
    rw [unit]
    omega
  opens := .inl (by rw [unit])

theorem Fares.and {other : Device Platform → Prop} (fares : Fares property demand device result)
    (survives : Survives other result) :
    Fares (fun after => property after ∧ other after) demand device result := by
  cases result with
  | ok value after => exact ⟨fares, survives⟩
  | error fault after =>
    cases fault with
    | storage error => exact ⟨fares, survives⟩
    | stack | timersExhausted | rankingsExhausted => exact fares

theorem Fares.bind {first rest : ControlM Platform Unit}
    (fares : Fares property demand before (first device))
    (continues : ∀ next, property next → Fares property demand before (rest next)) :
    Fares property demand before ((first >>= fun _ => rest) device) := by
  rw [bind_apply]
  generalize first device = result at fares
  cases result with
  | ok value next => exact continues next fares
  | error fault next => exact fares

/-! ## Rows -/

theorem Asks.fares (asks : Asks requests device target result)
    (within : (requests.filterMap RadioRequest.command?).length ≤ demand)
    (holds : ∀ env, Answers requests device.env env → property { target with env }) :
    Fares property demand device result := by
  cases asks with
  | @answered env answers => exact holds env answers
  | refused refuses =>
    intro willing
    obtain ⟨rfl, crowded⟩ := refuses.crowded willing
    exact ⟨rfl, crowded.full, Nat.lt_of_lt_of_le crowded.short (Nat.add_le_add_left within _)⟩

/-- A row behind one that was answered. -/
theorem Asks.behind {more : List RadioRequest} (asks : Asks more device target result)
    (answers : Answers requests before.env device.env) :
    Asks (requests ++ more) before target result := by
  cases asks with
  | answered answersMore => exact .answered (answers.append answersMore)
  | refused refuses => exact .refused (answers.append_refuses refuses)

theorem Asks.costs (asks : Asks requests device target result)
    (within : (requests.filterMap RadioRequest.command?).length + target.owed ≤ device.owed + cost)
    (opens : requests.filterMap RadioRequest.command? = [] ∨ target.window ≠ device.window) :
    Costs cost device result := by
  refine asks.fares (Nat.le_of_add_right_le within) fun env answers => ⟨answers.sends, ?_, ?_⟩
  · have owed : ({ target with env } : Device Platform).owed = target.owed := rfl
    rw [owed, answers.commands, List.length_append]
    omega
  · rw [answers.commands, List.length_append]
    exact opens.imp (fun none => by rw [none]; rfl) id

theorem Saves.fares (saves : Saves device result)
    (holds : ∀ env unsaved saveTries, env.1 = device.env.1 →
      property { device with env, unsaved, saveTries }) :
    Fares property demand before result := by
  have unit : (device.ranking.persist device.env).2.1 = device.env.1 := rfl
  cases saves with
  | spared => exact holds device.env device.unsaved device.saveTries rfl
  | done => exact holds _ _ _ unit
  | failed => exact holds _ _ _ unit

/-! ## Windows -/

/-- The row that puts a window into force, and the target of which owes nothing. -/
theorem putInForce_costs (env : described.env = before.env)
    (numbered : described.window ≠ before.window)
    (within : described.openingCost ≤ before.owed + cost) :
    Costs cost before (putInForce described) := by
  have asks := (putInForce_asks described).of_env env
  refine asks.costs ?_ (.inr numbered)
  rw [Device.owed_advertised]
  exact within

theorem putInForce_settles (described : Device Platform) :
    Survives (fun after => after.owed = 0) (putInForce described) :=
  (putInForce_asks described).survives fun _ => described.silenced.owed_advertised

/-- A described window costs a start, and a stop of the one that runs. -/
theorem Describes.costs (describes : Describes device described) :
    Costs 2 device (putInForce described) :=
  putInForce_costs describes.env describes.numbered
    (Nat.le_trans (openingCost_le_two described) (Nat.le_add_left 2 _))

/-- Where nothing runs a described window costs only the start. -/
theorem Describes.costs_stopped (describes : Describes device described)
    (env : device.env = before.env) (window : device.window = before.window)
    (stopped : device.running = false) :
    Costs 1 before (putInForce described) := by
  refine putInForce_costs (describes.env.trans env) (window ▸ describes.numbered) ?_
  have start := openingCost_le_one (describes.running.trans stopped)
  exact Nat.le_trans start (Nat.le_add_left 1 _)

theorem Closes.costs (closes : Closes device result) : Costs 2 device result := by
  have stop : (device.stopRequests.filterMap RadioRequest.command?).length ≤ 1 := by
    rw [commands_stopRequests]
    split <;> decide
  cases closes with
  | refused refuses =>
    intro willing
    obtain ⟨rfl, crowded⟩ := refuses.crowded willing
    have short := crowded.short
    exact ⟨rfl, crowded.full, by omega⟩
  | @turned env answers =>
    have describes := Describes.targets { device.silenced with env }
    -- The stop comes first; with it nothing runs, unless there is a link and nothing is posted.
    have start : ({ device.silenced with env } : Device Platform).forTargets.openingCost ≤ 1 := by
      by_cases down : device.link = .down
      · refine openingCost_le_one (describes.running.trans ?_)
        simp [Device.silenced, down]
      · rw [openingCost_linked (describes.link.trans_ne down)]
        exact Nat.zero_le 1
    have asks := ((putInForce_asks _).of_env describes.env).behind answers
    refine asks.costs ?_ (.inr describes.numbered)
    rw [List.filterMap_append, List.length_append, Device.owed_advertised]
    rw [Device.openingCost] at start
    omega

theorem Closes.settles (closes : Closes device result) :
    Survives (fun after => after.owed = 0) result := by
  cases closes with
  | refused refuses => trivial
  | turned answers => exact putInForce_settles _

/-! ## Events -/

theorem Detects.costs {peer : PeerId} {handle : LinkHandle} {central : Option PeerId}
    (detects : Detects (device.linked central handle) peer result) : Costs 0 device result := by
  have none := commands_detectRequests (device.linked central handle) peer
  have dropped : ((device.linked central handle).detected peer).link ≠ .down := by
    simp [Device.detected, Device.linked, Link.dropped]
  cases detects with
  | refused refuses =>
    intro willing
    obtain ⟨rfl, crowded⟩ := refuses.crowded willing
    have short := crowded.short
    rw [none] at short
    exact ⟨rfl, crowded.full, Nat.lt_of_lt_of_le short (Nat.add_le_add_left (Nat.zero_le _) _)⟩
  | @noted env answers more =>
    have asks : Asks _ device ((device.linked central handle).detected peer)
        (.ok () { (device.linked central handle).detected peer with env }) := .answered answers
    refine asks.costs ?_ (.inl none)
    rw [none, Device.owed_linked dropped]
    exact Nat.zero_le _
  | @complete env answers all =>
    have describes := Describes.targets
      { (device.linked central handle).detected peer with wanted := false, env }
    have asks : Asks ((device.linked central handle).detectRequests peer ++ _) device _ _ :=
      ((putInForce_asks _).of_env describes.env).behind answers
    refine asks.costs ?_ (.inr describes.numbered)
    have linked := openingCost_linked (describes.link.trans_ne dropped)
    rw [Device.openingCost] at linked
    rw [List.filterMap_append, List.length_append, none, linked, Device.owed_advertised]
    exact Nat.zero_le _

theorem Receives.costs {peer : Option PeerId} {handle : LinkHandle}
    (receives : Receives (device.linked peer handle) peer result) : Costs 0 device result := by
  cases receives with
  -- While the link is held nothing is owed.
  | ignored idle => exact Spends.spared rfl (Nat.zero_le _)
  | paired mode => exact Spends.spared rfl (Nat.zero_le _)
  | kept meant => exact Spends.spared rfl (Nat.zero_le _)
  | dropped advertises stranger =>
    have asks : Asks _ device _ (dropLink (device.linked peer handle)) :=
      (dropLink_asks (device.linked peer handle)).of_env rfl
    refine asks.costs ?_ (.inl rfl)
    exact Nat.zero_le _
  | detected scans detects => exact detects.costs

theorem Expires.costs (expires : Expires device result) : Costs 1 device result := by
  cases expires with
  | ignored undirected closed =>
    exact Spends.spared rfl (Nat.le_trans device.stopped.owed_le_one (Nat.le_add_left 1 _))
  | rested mode =>
    exact Spends.spared rfl (Nat.le_trans (Device.owed_le_one _) (Nat.le_add_left 1 _))
  | scanned mode phase => exact (Describes.targets device.stopped).costs_stopped rfl rfl rfl
  | offered mode phase => exact (Describes.next device.stopped).costs_stopped rfl rfl rfl

theorem onDisconnected_costs (device : Device Platform) :
    Costs 1 device (onDisconnected device) := by
  rw [onDisconnected_apply]
  cases link : device.link with
  | down => exact Spends.spared rfl (Nat.le_add_right _ _)
  | closing handle =>
    exact Spends.spared rfl (Nat.le_trans device.unlinked.owed_le_one (Nat.le_add_left 1 _))
  | up handle =>
    dsimp only
    split
    · exact (Describes.pairing device.unlinked).costs_stopped rfl rfl rfl
    · exact (Describes.sequence device.unlinked).costs_stopped rfl rfl rfl

theorem onBonded_costs (peer : PeerId) (device : Device Platform) :
    Costs 0 device (onBonded peer device) := by
  rw [onBonded_apply]
  split
  · dsimp only
    split
    · exact (saveRanking_saves _).fares fun env _ _ unit => .spared unit (Nat.le_refl _)
    · exact Spends.spared rfl (Nat.le_refl _)
  · exact Spends.spared rfl (Nat.le_refl _)
  · exact Spends.spared rfl (Nat.le_refl _)

theorem onStorageFull_costs (device : Device Platform) : Costs 0 device (onStorageFull device) := by
  unfold onStorageFull
  dsimp only
  split <;> exact Spends.spared rfl (Nat.le_refl _)

theorem onEvent_costs (event : RadioEvent) (device : Device Platform) :
    Costs event.cost device (onEvent event device) := by
  cases event with
  | connected peer handle =>
    by_cases down : device.link = .down
    · exact (onConnected_down peer handle down).costs
    · rw [onEvent, onConnected_linked peer handle down]
      exact Spends.spared rfl (Nat.le_refl _)
  | disconnected => exact onDisconnected_costs device
  | bonded peer => exact onBonded_costs peer device
  | timedOut window =>
    by_cases present : window = device.window
    · subst present
      exact (onTimedOut_expires device).costs
    · rw [onEvent, onTimedOut_stale present]
      exact Spends.spared rfl (Nat.le_add_right _ _)
  | storageFull => exact onStorageFull_costs device
  | bondsErased =>
    rw [onEvent, startSequence_apply]
    exact (Describes.sequence device).costs

/-! ## Requests and ticks -/

theorem onRequest_costs (request : Request) (device : Device Platform) :
    Costs request.cost device (onRequest request device) := by
  cases request with
  | moveCursor movement =>
    rw [onRequest_moveCursor]
    split
    · exact (ask_asks _ device).costs (Nat.le_of_eq (Nat.zero_add _)) (.inl rfl)
    · exact Spends.spared rfl (Nat.le_refl _)
    · exact Spends.spared rfl (Nat.le_refl _)
  | pairingWindow => exact (Describes.pairing device).costs
  | eraseBonds => exact Spends.spared rfl (Nat.le_refl _)
  | disconnect =>
    have none : device.link.dropRequests.filterMap RadioRequest.command? = [] := by
      cases device.link <;> rfl
    refine (dropLink_asks device).costs ?_ (.inl none)
    rw [none, List.length_nil, Nat.zero_add, Device.owed, Device.owed]
    simp only [Link.dropped_eq_down_iff, Request.cost, Nat.add_zero, Nat.le_refl]

/-- A tick posts what is owed, and then nothing is. -/
structure Pays (before after : Device Platform) : Prop where
  sends : Sends before.env.1 after.env.1
  paid : after.owed = 0
  within : after.env.1.commands.items.length ≤ before.env.1.commands.items.length + before.owed

theorem Pays.keep (pays : Pays before device) (sends : Sends device.env.1 target.env.1)
    (commands : target.env.1.commands.items = device.env.1.commands.items)
    (owed : target.owed = device.owed) : Pays before target where
  sends := pays.sends.trans sends
  paid := owed.trans pays.paid
  within := by
    rw [commands]
    exact pays.within

theorem reconcile_pays (device : Device Platform) :
    Fares (Pays device) device.owed device (reconcile device) := by
  refine (reconcile_asks device).fares (Nat.le_of_eq device.commands_reconcileRequests) ?_
  intro env answers
  refine ⟨answers.sends, Device.owed_agreed fun down => if_pos down, Nat.le_of_eq ?_⟩
  rw [answers.commands, List.length_append, device.commands_reconcileRequests]

theorem eraseWhenDown_pays (pays : Pays before device) :
    Fares (Pays before) before.owed before (eraseWhenDown device) := by
  have erases := eraseWhenDown_erases device
  generalize eraseWhenDown device = result at erases
  cases erases with
  | spared keeps => exact pays
  | refused pending down refuses =>
    intro willing
    obtain ⟨rfl, crowded⟩ := refuses.crowded (pays.sends.codes ▸ willing)
    exact ⟨rfl, crowded.full, Nat.lt_of_lt_of_le crowded.short pays.within⟩
  | erased pending down answers =>
    exact pays.keep answers.sends (answers.commands.trans (List.append_nil _)) rfl

theorem tick_pays (clear : device.fault = none) :
    Fares (Pays device) device.owed device (tick device) := by
  rw [tick_apply clear]
  exact (reconcile_pays device).bind fun reconciled pays =>
    (eraseWhenDown_pays pays).bind fun erased pays =>
      (saveRanking_saves erased).fares fun env _ _ unit =>
        pays.keep (.of_eq unit) (congrArg (·.commands.items) unit) rfl

/-- The start leaves nothing to the first tick. -/
theorem start_settles (device : Device Platform) :
    Survives (fun after => after.owed = 0) (start device) := by
  rw [start_apply]
  exact (putInForce_settles _).bind fun opened settled =>
    (saveRanking_saves opened).survives settled fun _ _ _ => settled

/-! ## The scan timer -/

/-- What a read of the scan timer makes of a device, or of a device whose fault is left to the next
tick. -/
inductive Served (cost : Nat) (before after : Device Platform) : Prop
  | done (calm : Calm (fun _ => True) after) (spends : Spends cost before after)
      (owed : after.owed ≤ before.owed)
  | failed {error : StackError} (recorded : after.fault = some (.stack error))
      (crowded : before.env.1.board.codes.Willing →
        error = .noResources ∧ Crowded (before.owed + cost) before.env.1 after.env.1)

theorem Rings.served {last : Device Platform} (rings : Rings device last)
    (calm : Calm (fun _ => True) device) : Served 2 device last := by
  cases rings with
  | ignored quiet => exact .done calm (.spared rfl (Nat.le_add_right _ _)) (Nat.le_refl _)
  | closed mode phase closes ok =>
    have costs := closes.costs
    have survives := closes.survives calm.toReady
    have settles := closes.settles
    subst ok
    exact .done survives costs (settles ▸ Nat.zero_le _)
  | failed mode phase closes error =>
    have costs := closes.costs
    obtain ⟨refusal, rfl⟩ := closes.error error
    subst error
    refine .failed rfl fun willing => ?_
    obtain ⟨named, crowded⟩ := costs willing
    cases named
    exact ⟨rfl, crowded⟩

theorem Reads.served {last : Device Platform} (reads : Reads device last)
    (calm : Calm (fun _ => True) device) : Served 2 device last := by
  cases reads with
  | waits unready untouched =>
    exact .done { calm with } (.spared rfl (Nat.le_add_right _ _)) (Nat.le_refl _)
  | @rings before after rung ready popped rings behind =>
    have waiting : Calm (fun _ => True) ({ device with timers := before } : Device Platform) :=
      { calm with }
    -- The timers are no part of what is known.
    cases rings.served waiting with
    | done calm spends owed => exact .done { calm with } { spends with } owed
    | failed recorded crowded => exact .failed recorded crowded

end Operations

section Lull

variable {ε : Type} {device after : Device ε}

/-- The scan timer would end no scan if it were read now. -/
def Device.Lulled (device : Device ε) : Prop :=
  device.mode = .scan → (device.timers.slot device.scanTimer).ready = false

/-- A scan that opens arms the timer, and what is armed is not ready. -/
theorem Arms.lulled_of_opened (arms : Arms device after) (opened : after.window ≠ device.window) :
    after.Lulled := by
  intro scan
  rw [arms.opens opened scan, arms.scanTimer, TimerPool.slot_arm, if_pos rfl]

theorem Arms.lulled (arms : Arms device after) (lulled : device.Lulled) : after.Lulled := by
  by_cases same : after.window = device.window
  · obtain ⟨mode, timers⟩ := arms.stays same
    rw [Device.Lulled, mode, timers, arms.scanTimer]
    exact lulled
  · exact arms.lulled_of_opened same

variable [RadioStack ε]

theorem Reads.spared {last : Device ε} (reads : Reads device last) (lulled : device.Lulled) :
    ∃ timers, last = { device with timers } := by
  cases reads with
  | waits unready untouched => exact ⟨_, rfl⟩
  | rings ready popped rings behind =>
    cases rings with
    | ignored quiet => exact ⟨_, rfl⟩
    | closed mode | failed mode => simp [lulled mode] at ready

theorem Session.timerStep_spared {session : Session ε} (hooked : session.Hooked)
    (lulled : session.device.Lulled) :
    ∃ timers, session.timerStep.device = { session.device with timers } := by
  by_cases still : session.device.timers.now = session.scheduler.lastTick
  · rw [Session.timerStep_still still]
    exact ⟨session.device.timers, rfl⟩
  · rw [Session.timerStep_moved still]
    exact hooked.sweep_reads.spared lulled

end Lull

theorem Session.timerStep_served {session : Session Platform} (hooked : session.Hooked)
    (calm : Calm (fun _ => True) session.device) :
    Served 2 session.device session.timerStep.device := by
  by_cases still : session.device.timers.now = session.scheduler.lastTick
  · rw [Session.timerStep_still still]
    exact .done calm (.spared rfl (Nat.le_add_right _ _)) (Nat.le_refl _)
  · rw [Session.timerStep_moved still]
    exact hooked.sweep_reads.served calm

end BondedMouse
