import BondedMouse.Proofs.Controller.Upheld
import BondedMouse.Proofs.Session.Discipline
import BondedMouse.Proofs.Session.Recency

/-! # Erased peers

The user orders the bonds to be erased at any time, and a tick without a link carries the
order out.  Of the peers only the ranking is cleared by it.  The detected peers and the
whitelist are left as they are until the stack reports that the bonds are erased; the
sequence that begins then forgets them too.  Whoever is found in one of the three places
later has been bonded since the erasure, or is in the whitelist because the registry
listed it since.
-/

namespace BondedMouse

open Simulation

/-! ## Moves of a started session -/

section Moves

variable {ε : Type}

/-- The moves behind a start: there is no other start, and no mode is set from outside. -/
def Move.Driven : Move ε → Prop
  | .operation .start | .operation (.setMode _ _) => False
  | .operation _ | .outside _ => True

/-- The move is an order of the user to erase the bonds. -/
def Move.orders : Move ε → Bool
  | .operation (.request .eraseBonds) => true
  | _ => false

/-- What happens in a started session beside ticks and orders to erase the bonds. -/
def Operation.Plain : Operation → Prop
  | .start | .setMode _ _ | .tick | .request .eraseBonds => False
  | _ => True

theorem Move.Driven.cases {move : Move ε} (driven : move.Driven) :
    (∃ env, move = .outside env) ∨ move = .operation .tick ∨ move.orders = true ∨
      ∃ operation : Operation, operation.Plain ∧ move = .operation operation := by
  cases move with
  | outside env => exact .inl ⟨env, rfl⟩
  | operation operation =>
    cases operation with
    | start | setMode => exact driven.elim
    | tick => exact .inr (.inl rfl)
    | request request =>
      cases request with
      | eraseBonds => exact .inr (.inr (.inl rfl))
      | moveCursor | pairingWindow | disconnect =>
        exact .inr (.inr (.inr ⟨.request _, by trivial, rfl⟩))
    | startSequence | event | scanTimeout | timerTick | timerStep =>
      exact .inr (.inr (.inr ⟨_, by trivial, rfl⟩))

theorem Move.eq_of_orders {move : Move ε} (ordered : move.orders = true) :
    move = .operation (.request .eraseBonds) := by
  unfold Move.orders at ordered
  split at ordered
  · rfl
  · cases ordered

variable [RadioStack ε] [RecordStore ε]

theorem Upheld.performed {bonded : PeerId → Prop} {holds : Device ε → Prop}
    (upheld : Upheld bonded holds) {session : Session ε} (wired : session.Wired)
    {operation : Operation} (plain : operation.Plain)
    (bonds : ∀ peer handle, operation = .event (.bonded peer) →
      session.device.link = .up handle → bonded peer)
    (held : holds session.device) : holds (session.perform operation).2.device := by
  have same {timers : TimerPool} {device : Device ε} (held : holds device) :
      holds { device with timers } := upheld.same held ⟨rfl, rfl, rfl, rfl, .refl⟩
  cases operation with
  | start | setMode | tick => exact plain.elim
  | startSequence =>
    rw [Session.perform, Session.control_device]
    exact upheld.sequenceStarted held
  | event event =>
    rw [Session.perform, Session.control_device]
    exact upheld.event (fun peer handle named => bonds peer handle (congrArg _ named)) held
  | request request =>
    rw [Session.perform, Session.control_device]
    refine upheld.request (fun erasing => ?_) held
    subst erasing
    exact plain
  | scanTimeout => exact upheld.rings held (Controller.onScanTimer_rings session.device)
  | timerTick => exact same held
  | timerStep =>
    have steps := Session.timerStep_steps wired
    show holds session.timerStep.device
    generalize session.timerStep.device = last at steps
    cases steps with
    | quiet timers => exact same held
    | rung before after rung rings => exact same (upheld.rings (same held) rings)

end Moves

/-! ## Who asks for an erasure -/

section Erasures

open Controller

variable {ε : Type} [RadioStack ε] [RecordStore ε]

/-- From an environment on, no call has erased the bonds, and the order to do so stands as given. -/
structure Unerased (env : ε) (pending : Bool) (device : Device ε) : Prop where
  calls : Calls env device.env
  pending : device.erasePending = pending

theorem unerased_upheld (env : ε) (pending : Bool) :
    Upheld (fun _ => True) (Unerased env pending) where
  same unerased same :=
    ⟨unerased.calls.trans same.calls, same.erasePending.trans unerased.pending⟩
  opens unerased opens :=
    ⟨opens.env ▸ unerased.calls, opens.erasePending.trans unerased.pending⟩
  struck _ unerased := ⟨unerased.calls, unerased.pending⟩
  noted _ unerased := ⟨unerased.calls, unerased.pending⟩
  inserted _ unerased := ⟨unerased.calls, unerased.pending⟩

namespace Simulation.Journaled

theorem shows_of_calls {env last : Journaled ε} (calls : Calls env last) :
    ∃ requests, Shows env requests last ∧ .forgetBonds ∉ requests := by
  induction calls with
  | refl => exact ⟨[], ⟨[], by simp, rfl⟩, by simp⟩
  | request _ request keeps ih =>
    obtain ⟨requests, shows, spared⟩ := ih
    exact ⟨_, shows.note (.radio request _) rfl, by simp [Call.request?, spared, keeps.symm]⟩
  | read _ key room ih =>
    obtain ⟨requests, shows, spared⟩ := ih
    exact ⟨requests, shows.other (.read key _) rfl rfl, spared⟩
  | write _ key bytes ih =>
    obtain ⟨requests, shows, spared⟩ := ih
    exact ⟨requests, shows.other (.write key bytes _) rfl rfl, spared⟩
  | reclaim _ ih =>
    obtain ⟨requests, shows, spared⟩ := ih
    exact ⟨requests, shows.other (.reclaim _) rfl rfl, spared⟩

end Simulation.Journaled

theorem Session.requests_of_shows {session : Session (Journaled ε)} {operation : Operation}
    {requests : List RadioRequest}
    (shows : session.device.env.Shows requests (session.perform operation).2.device.env) :
    session.requests operation = requests := by
  obtain ⟨calls, appended, listed⟩ := shows
  rw [Session.requests, appended, List.drop_left, listed]

/-- What a tick that makes some requests has to do with the erasure: it carries out an order, or
makes no request for it. -/
inductive CarriesOut (device after : Device (Journaled ε)) (requests : List RadioRequest) : Prop
  | erased (ordered : device.erasePending = true) (down : device.link = .down)
      (single : requests.count .forgetBonds = 1) (settled : after.erasePending = false)
  | waited (unasked : requests.count .forgetBonds = 0)
      (same : after.erasePending = device.erasePending)

/-- The tick has got to a device in between, with the requests so far. -/
def Progress (device middle : Device (Journaled ε)) : Prop :=
  ∃ requests, device.env.Shows requests middle.env ∧ CarriesOut device middle requests

omit [RadioStack ε] in
theorem Progress.saved {device middle : Device (Journaled ε)} (progress : Progress device middle) :
    Progress device (final (saveRanking middle)) := by
  obtain ⟨requests, shows, carries⟩ := progress
  -- A save calls the store only and does not touch the order.
  have written : device.env.Shows requests (middle.ranking.persist middle.env).2 :=
    shows.other (.write _ _ _) rfl rfl
  have saves := saveRanking_saves middle
  generalize saveRanking middle = result at saves
  cases saves with
  | spared => exact ⟨requests, shows, carries⟩
  | done | failed =>
    refine ⟨requests, written, ?_⟩
    cases carries with
    | erased ordered down single settled => exact .erased ordered down single settled
    | waited unasked same => exact .waited unasked same

/-- What is known when a tick has reconciled what runs with what is wanted. -/
theorem reconcile_unerased (device : Device (Journaled ε)) :
    Unerased device.env device.erasePending (final (reconcile device)) ∧
      ((final (reconcile device)).link = .down → device.link = .down) := by
  have unasked := device.forgetBonds_not_mem_reconcileRequests
  refine ⟨(unerased_upheld _ _).asks (reconcile_asks device) unasked ⟨.refl, rfl⟩, ?_⟩
  by_cases down : device.link = .down
  · exact fun _ => down
  · rw [reconcile_apply, if_neg fun differs => down differs.1]
    exact id

theorem eraseWhenDown_progress {device middle : Device (Journaled ε)}
    (unerased : Unerased device.env device.erasePending middle)
    (down : middle.link = .down → device.link = .down) :
    Progress device (final (eraseWhenDown middle)) := by
  obtain ⟨requests, shows, unasked⟩ := Journaled.shows_of_calls unerased.calls
  have asked : device.env.Shows (requests ++ [.forgetBonds])
      (RadioStack.request .forgetBonds middle.env).2 :=
    shows.note (.radio .forgetBonds _) rfl
  have single : (requests ++ [RadioRequest.forgetBonds]).count .forgetBonds = 1 := by
    simp [List.count_append, List.count_eq_zero.2 unasked]
  have erases := eraseWhenDown_erases middle
  generalize eraseWhenDown middle = result at erases
  cases erases with
  | spared keeps => exact ⟨requests, shows, .waited (List.count_eq_zero.2 unasked) unerased.pending⟩
  | refused pending free refuses =>
    cases refuses with
    | here refused =>
      exact ⟨_, asked, .erased (unerased.pending.symm.trans pending) (down free) single rfl⟩
    | later answered rest => cases rest
  | erased pending free answers =>
    cases answers with
    | next answered rest =>
      cases rest
      exact ⟨_, asked, .erased (unerased.pending.symm.trans pending) (down free) single rfl⟩

theorem tick_progress (device : Device (Journaled ε)) : Progress device (final (tick device)) := by
  cases recorded : device.fault with
  | some fault =>
    rw [tick_fault recorded]
    exact ⟨[], ⟨[], by simp [final], rfl⟩, .waited (by simp) rfl⟩
  | none =>
    obtain ⟨unerased, down⟩ := reconcile_unerased device
    rw [tick_apply recorded, bind_apply]
    generalize reconcile device = result at unerased down
    cases result with
    | ok value middle =>
      exact final_bind _ (eraseWhenDown_progress unerased down) fun erased progress => progress.saved
    -- A tick whose first request is refused gets no further.
    | error fault middle =>
      obtain ⟨requests, shows, unasked⟩ := Journaled.shows_of_calls unerased.calls
      exact ⟨requests, shows, .waited (List.count_eq_zero.2 unasked) unerased.pending⟩

/-! ## Erasures along a run -/

namespace Session

/-- How often a move asks the stack to erase the bonds. -/
def erasures (session : Session (Journaled ε)) : Move (Journaled ε) → Nat
  | .operation operation => (session.requests operation).count .forgetBonds
  | .outside _ => 0

def erasuresAlong (session : Session (Journaled ε)) : List (Move (Journaled ε)) → Nat
  | [] => 0
  | move :: moves => session.erasures move + (session.moved move).2.erasuresAlong moves

/-- The move is a tick that carries an order to erase the bonds out. -/
structure Erasure (session : Session (Journaled ε)) (move : Move (Journaled ε)) : Prop where
  tick : move = .operation .tick
  down : session.device.link = .down
  ordered : session.device.erasePending = true
  single : session.erasures move = 1
  settled : (session.moved move).2.device.erasePending = false
  /-- The ranking is cleared, unless the stack refused. -/
  cleared : (session.callsOf .tick).any Call.erases = true →
    (session.moved move).2.device.ranking = .empty

/-- What a move has to do with the erasure of the bonds. -/
inductive ErasureStep (session : Session (Journaled ε)) (move : Move (Journaled ε)) : Prop
  | erases (erasure : session.Erasure move)
  | ordered (order : move.orders = true) (unasked : session.erasures move = 0)
  | spared (unasked : session.erasures move = 0)
      (same : (session.moved move).2.device.erasePending = session.device.erasePending)

variable {session : Session (Journaled ε)} {move : Move (Journaled ε)}

theorem erasures_of_unerased {operation : Operation} {pending : Bool}
    (unerased : Unerased session.device.env pending (session.perform operation).2.device) :
    session.erasures (.operation operation) = 0 := by
  obtain ⟨requests, shows, unasked⟩ := Journaled.shows_of_calls unerased.calls
  rw [erasures, requests_of_shows shows, List.count_eq_zero.2 unasked]

theorem tick_erasureStep (session : Session (Journaled ε)) :
    session.ErasureStep (.operation .tick) := by
  obtain ⟨requests, shows, carries⟩ := tick_progress session.device
  rw [← control_device] at shows carries
  have asked : session.erasures (.operation .tick) = requests.count .forgetBonds := by
    rw [erasures, requests_of_shows shows]
  cases carries with
  | erased ordered down single settled =>
    refine .erases ⟨rfl, down, ordered, asked.trans single, settled, fun erases => ?_⟩
    exact session.ranking_tick.trans (if_pos erases)
  | waited unasked same => exact .spared (asked.trans unasked) same

theorem moved_erasureStep (wired : session.Wired) (driven : move.Driven) :
    session.ErasureStep move := by
  obtain ⟨env, rfl⟩ | rfl | ordered | ⟨operation, plain, rfl⟩ := driven.cases
  · exact .spared rfl rfl
  · exact session.tick_erasureStep
  · obtain rfl := Move.eq_of_orders ordered
    have unerased : Unerased session.device.env true
        (session.perform (.request .eraseBonds)).2.device := ⟨.refl, rfl⟩
    exact .ordered rfl (erasures_of_unerased unerased)
  · have unerased := (unerased_upheld session.device.env session.device.erasePending).performed
      wired plain (fun _ _ _ _ => trivial) ⟨.refl, rfl⟩
    exact .spared (erasures_of_unerased unerased) unerased.pending

/-- Each order is good for one erasure at most. -/
theorem erasures_le (wired : session.Wired) (driven : move.Driven) :
    session.erasures move + (session.moved move).2.device.erasePending.toNat ≤
      session.device.erasePending.toNat + move.orders.toNat := by
  cases moved_erasureStep wired driven with
  | erases erasure => simp [erasure.single, erasure.settled, erasure.ordered]
  | ordered order unasked =>
    have flag := (session.moved move).2.device.erasePending.toNat_le
    simp only [unasked, order, Bool.toNat_true]
    omega
  | spared unasked same => simp [unasked, same]

theorem erasuresAlong_le (wired : session.Wired) {moves : List (Move (Journaled ε))}
    (driven : ∀ move ∈ moves, move.Driven) :
    session.erasuresAlong moves + (session.after moves).device.erasePending.toNat ≤
      session.device.erasePending.toNat + moves.countP Move.orders := by
  induction moves generalizing session with
  | nil => simp [erasuresAlong, after]
  | cons move moves ih =>
    have here := erasures_le wired (driven move List.mem_cons_self)
    have behind := ih (wired.moved move) fun other member =>
      driven other (List.mem_cons_of_mem _ member)
    have counted : (move :: moves).countP Move.orders =
        moves.countP Move.orders + move.orders.toNat := by
      rw [List.countP_cons]
      cases move.orders <;> rfl
    simp only [erasuresAlong, after, List.foldl_cons] at *
    omega

end Session

end Erasures

/-! ## Where the peers come from -/

section Sources

variable {ε : Type} [RadioStack ε] [RecordStore ε]

/-- The registry lists a peer somewhere on the way from one environment to another. -/
def Registry.Lists (env last : ε) (peer : PeerId) : Prop :=
  ∃ reading, Calls env reading ∧ Calls reading last ∧ peer ∈ Registry.whitelist reading

theorem Registry.Lists.trans {env middle last : ε} {peer : PeerId}
    (lists : Registry.Lists env middle peer) (calls : Calls middle last) :
    Registry.Lists env last peer := by
  obtain ⟨reading, first, rest, listed⟩ := lists
  exact ⟨reading, first, rest.trans calls, listed⟩

/-- The peers of a device come from some bonded ones, and those of its whitelist from these or
from some listed ones. -/
structure DrawsOn (bonded listed : PeerId → Prop) (device : Device ε) : Prop where
  formed : device.ranking.WellFormed
  ranking : ∀ peer ∈ device.ranking.toList, bonded peer
  detected : ∀ peer ∈ device.sequence.targets, bonded peer
  whitelist : ∀ peer ∈ device.whitelist, bonded peer ∨ listed peer

omit [RadioStack ε] [RecordStore ε] in
theorem DrawsOn.mono {bonded listed wider longer : PeerId → Prop} {device : Device ε}
    (draws : DrawsOn bonded listed device) (widens : ∀ peer, bonded peer → wider peer)
    (lengthens : ∀ peer, listed peer → longer peer) : DrawsOn wider longer device where
  formed := draws.formed
  ranking peer member := widens peer (draws.ranking peer member)
  detected peer member := widens peer (draws.detected peer member)
  whitelist peer member := (draws.whitelist peer member).imp (widens peer) (lengthens peer)

/-- Since an environment the peers of a device come from some bonded and some listed ones, or the
registry has listed them on the way. -/
structure DrawsSince (start : ε) (bonded listed : PeerId → Prop) (device : Device ε) : Prop where
  calls : Calls start device.env
  draws : DrawsOn bonded (fun peer => listed peer ∨ Registry.Lists start device.env peer) device

namespace DrawsSince

variable {start : ε} {bonded listed : PeerId → Prop} {device middle : Device ε}

theorem same {after : Device ε} (since : DrawsSince start bonded listed device)
    (same : SamePeers device after) : DrawsSince start bonded listed after where
  calls := since.calls.trans same.calls
  draws := {
    formed := same.ranking ▸ since.draws.formed
    ranking := same.ranking ▸ since.draws.ranking
    detected := same.sequence ▸ since.draws.detected
    whitelist := fun peer member => by
      rw [same.whitelist] at member
      exact (since.draws.whitelist peer member).imp_right (.imp_right (.trans · same.calls)) }

theorem forPairing (since : DrawsSince start bonded listed middle) :
    DrawsSince start bonded listed middle.forPairing :=
  ⟨since.calls, since.draws.formed, since.draws.ranking, since.draws.detected, nofun⟩

theorem forPeer (since : DrawsSince start bonded listed middle) {peer : PeerId}
    (drawn : bonded peer) : DrawsSince start bonded listed (middle.forPeer peer) where
  calls := since.calls
  draws := { since.draws with
    whitelist := fun other member => by
      cases List.mem_singleton.1 member
      exact .inl drawn }

/-- The registry as it is read. -/
theorem read (since : DrawsSince start bonded listed middle) :
    DrawsSince start bonded listed
      { middle.counted with whitelist := Registry.whitelist middle.env } where
  calls := since.calls
  draws := { since.draws with
    whitelist := fun _ member => .inr (.inr ⟨middle.env, since.calls, .refl, member⟩) }

theorem forScan (since : DrawsSince start bonded listed middle) :
    DrawsSince start bonded listed middle.forScan := by
  unfold Device.forScan
  dsimp only
  split
  · exact since.read.forPairing
  · refine ⟨since.calls, { since.read.draws with detected := ?_ }⟩
    -- A scan begins with nobody detected.
    intro _ member
    rw [Sequence.targets_restart] at member
    cases member

theorem forAnyBonded (since : DrawsSince start bonded listed middle) :
    DrawsSince start bonded listed middle.forAnyBonded := by
  unfold Device.forAnyBonded
  dsimp only
  split
  · exact since.read.forPairing
  · exact ⟨since.calls, { since.read.draws with }⟩

/-- Another sequence that detected nobody else. -/
theorem of_sequence (since : DrawsSince start bonded listed middle) {sequence : Sequence}
    (fewer : ∀ peer ∈ sequence.targets, bonded peer) :
    DrawsSince start bonded listed { middle with sequence } :=
  ⟨since.calls, { since.draws with detected := fewer }⟩

theorem opens {described : Device ε} (since : DrawsSince start bonded listed middle)
    (opens : Opens middle described) : DrawsSince start bonded listed described := by
  cases opens with
  | rest => exact since.same ⟨rfl, rfl, rfl, rfl, .refl⟩
  | pairing => exact since.forPairing
  | targets =>
    have closed : DrawsSince start bonded listed
        { middle with sequence := middle.sequence.closeScan.2 } :=
      since.of_sequence fun peer member =>
        since.draws.detected peer (Sequence.mem_targets_closeScan member)
    unfold Device.forTargets
    dsimp only
    split
    · next peer first =>
      exact closed.forPeer (since.draws.detected peer (Sequence.mem_targets_of_closeScan first))
    · exact closed.forScan
  | next phase =>
    have turned : DrawsSince start bonded listed
        { middle with sequence := middle.sequence.turn.2 } :=
      since.of_sequence fun peer member => by
        rw [Sequence.targets_turn] at member
        exact since.draws.detected peer member
    unfold Device.forNext
    dsimp only
    split
    · next peer next =>
      exact turned.forPeer (since.draws.detected peer (Sequence.mem_targets_of_turn next))
    · exact turned.forScan
    · exact turned.forAnyBonded
  | sequence =>
    have fresh : Sequence.fresh.targets = [] := Sequence.targets_restart .fresh
    exact (since.of_sequence (by simp [fresh])).forScan

theorem noted (since : DrawsSince start bonded listed device) (peer : PeerId) :
    DrawsSince start bonded listed (device.noted peer) := by
  refine since.of_sequence fun other member => ?_
  cases ranked : device.ranking.rankOf? peer with
  | none =>
    rw [ranked] at member
    exact since.draws.detected other member
  | some rank =>
    rw [ranked] at member
    obtain earlier | rfl := Sequence.mem_targets_note member
    · exact since.draws.detected other earlier
    -- Who has a rank is in the ranking.
    · refine since.draws.ranking other (since.draws.formed.mem_toList_iff.2 ?_)
      rw [ranked]
      rfl

theorem inserted (since : DrawsSince start bonded listed device) {peer : PeerId}
    (bond : bonded peer) : DrawsSince start bonded listed
      { device with ranking := (device.ranking.insert peer).2 } where
  calls := since.calls
  draws := { since.draws with
    formed := Ranking.wellFormed_closed.insert peer since.draws.formed
    ranking := fun other member => by
      rw [since.draws.formed.toList_insert] at member
      obtain rfl | older := List.mem_cons.1 (List.mem_of_mem_take member)
      · exact bond
      · exact since.draws.ranking other (List.mem_of_mem_erase older) }

theorem upheld (start : ε) (bonded listed : PeerId → Prop) :
    Upheld bonded (DrawsSince start bonded listed) where
  same since same := since.same same
  opens since opens := since.opens opens
  struck _ since := ⟨since.calls, { since.draws with
    whitelist := fun other member => since.draws.whitelist other (List.mem_of_mem_erase member) }⟩
  noted peer since := since.noted peer
  inserted bond since := since.inserted bond

end DrawsSince

end Sources

/-! ## Runs behind an erasure -/

section Runs

variable {ε : Type} [RadioStack ε] [RecordStore ε]

namespace Session

/-- The registry lists a peer at some time along a list of moves. -/
def Lists (session : Session ε) : List (Move ε) → PeerId → Prop
  | [], _ => False
  | move :: moves, peer =>
    Registry.Lists session.device.env (session.moved move).2.device.env peer ∨
      (session.moved move).2.Lists moves peer

theorem Lists.behind {session : Session ε} {moves more : List (Move ε)} {peer : PeerId}
    (lists : (session.after moves).Lists more peer) : session.Lists (moves ++ more) peer := by
  induction moves generalizing session with
  | nil => exact lists
  | cons move moves ih => exact .inr (ih lists)

theorem marks_append (session : Session (Journaled ε)) (moves more : List (Move (Journaled ε))) :
    session.marks (moves ++ more) = session.marks moves ++ (session.after moves).marks more := by
  induction moves generalizing session with
  | nil => rfl
  | cons move moves ih =>
    rw [List.cons_append, marks, marks, ih, List.append_assoc]
    rfl

/-- A session that is only driven does not start again. -/
theorem started_not_mem_marks {session : Session (Journaled ε)} {moves : List (Move (Journaled ε))}
    (driven : ∀ move ∈ moves, move.Driven) (peers : List PeerId) :
    .started peers ∉ session.marks moves := by
  induction moves generalizing session with
  | nil => exact List.not_mem_nil
  | cons move moves ih =>
    rw [marks, List.mem_append, not_or]
    refine ⟨fun here => ?_, ih fun other member => driven other (List.mem_cons_of_mem _ member)⟩
    have marks := Session.marks_of_mark? (Option.mem_toList.1 here)
    cases marks with
    | started starts =>
      subst starts
      exact driven _ List.mem_cons_self

end Session

variable {bonded listed : PeerId → Prop} {session : Session (Journaled ε)}
  {moves : List (Move (Journaled ε))}

omit [RadioStack ε] [RecordStore ε] in
theorem mem_history {marks : List Mark} {history : List PeerId} {peer : PeerId}
    (member : peer ∈ marks.foldl Mark.extend history) (unstarted : ∀ peers, .started peers ∉ marks) :
    peer ∈ history ∨ .bonded peer ∈ marks := by
  induction marks generalizing history with
  | nil => exact .inl member
  | cons mark marks ih =>
    have behind := ih member fun peers => fun later => unstarted peers (List.mem_cons_of_mem _ later)
    obtain earlier | later := behind
    · cases mark with
      | bonded other =>
        obtain rfl | older := List.mem_cons.1 earlier
        · exact .inr List.mem_cons_self
        · exact .inl older
      | erased => cases earlier
      | started peers => exact absurd List.mem_cons_self (unstarted peers)
    · exact .inr (List.mem_cons_of_mem _ later)

/-- A ranking that was empty has only peers that were bonded since. -/
theorem Session.bonded_of_ranked (wired : session.Wired) (cleared : session.device.ranking = .empty)
    (driven : ∀ move ∈ moves, move.Driven) {peer : PeerId}
    (ranked : peer ∈ (session.after moves).device.ranking.toList) :
    .bonded peer ∈ session.marks moves := by
  have recalls := Session.recalls_after wired (cleared ▸ Ranking.Recalls.empty) moves
  rw [recalls.toList] at ranked
  have member := List.mem_eraseDups.1 (List.mem_of_mem_take ranked)
  obtain old | bond := mem_history member (Session.started_not_mem_marks driven)
  · cases old
  · exact bond

theorem DrawsOn.moved (draws : DrawsOn bonded listed session.device) (wired : session.Wired)
    {move : Move (Journaled ε)} (driven : move.Driven) :
    DrawsOn (fun peer => bonded peer ∨ session.mark? move = some (.bonded peer))
      (fun peer => listed peer ∨
        Registry.Lists session.device.env (session.moved move).2.device.env peer)
      (session.moved move).2.device := by
  have wider := draws.mono (fun peer (bond : bonded peer) =>
      (.inl bond : bonded peer ∨ session.mark? move = some (.bonded peer)))
    (fun peer (listing : listed peer) => (.inl listing : listed peer ∨
      Registry.Lists session.device.env (session.moved move).2.device.env peer))
  obtain ⟨env, rfl⟩ | rfl | ordered | ⟨operation, plain, rfl⟩ := driven.cases
  · exact { wider with }
  · have same : SameWindow session.device (session.perform .tick).2.device := by
      rw [Session.perform, Session.control_device]
      exact tick_sameWindow session.device
    have ranking := session.ranking_tick
    refine ⟨?_, ?_, same.sequence ▸ wider.detected, same.whitelist ▸ wider.whitelist⟩
    · show (session.perform .tick).2.device.ranking.WellFormed
      rw [ranking]
      split
      · exact Ranking.wellFormed_closed.empty
      · exact wider.formed
    · show ∀ peer ∈ (session.perform .tick).2.device.ranking.toList, _
      rw [ranking]
      split
      · exact fun _ member => absurd member List.not_mem_nil
      · exact wider.ranking
  · obtain rfl := Move.eq_of_orders ordered
    exact { wider with }
  · have since := (DrawsSince.upheld session.device.env
      (fun peer => bonded peer ∨ session.mark? (.operation operation) = some (.bonded peer))
      listed).performed wired plain ?_ ⟨.refl, ?_⟩
    · exact since.draws
    · rintro peer handle rfl up
      exact .inr (by simp [Session.mark?, up])
    · exact draws.mono (fun _ => .inl) (fun _ => .inl)

theorem DrawsOn.along (draws : DrawsOn bonded listed session.device) (wired : session.Wired)
    (driven : ∀ move ∈ moves, move.Driven) :
    DrawsOn (fun peer => bonded peer ∨ .bonded peer ∈ session.marks moves)
      (fun peer => listed peer ∨ session.Lists moves peer) (session.after moves).device := by
  induction moves generalizing session bonded listed with
  | nil => exact draws.mono (fun _ => .inl) (fun _ => .inl)
  | cons move moves ih =>
    have here := draws.moved wired (driven move List.mem_cons_self)
    have behind := ih here (wired.moved move) fun other member =>
      driven other (List.mem_cons_of_mem _ member)
    refine behind.mono (fun peer => ?_) fun peer => or_assoc.1
    rintro ((bond | now) | later)
    · exact .inl bond
    · refine .inr ?_
      rw [Session.marks, now]
      exact List.mem_cons_self
    · refine .inr ?_
      rw [Session.marks]
      exact List.mem_append_right _ later

/-- The report that the bonds are erased begins a sequence that detected nobody, with a whitelist
that the registry has just listed. -/
theorem DrawsOn.of_report (formed : session.device.ranking.WellFormed)
    (ranked : ∀ peer ∈ session.device.ranking.toList, bonded peer) :
    let reported := (session.moved (.operation (.event .bondsErased))).2
    DrawsOn bonded (Registry.Lists session.device.env reported.device.env) reported.device := by
  intro reported
  have bare : DrawsSince session.device.env bonded (fun _ => False)
      { session.device with sequence := .fresh, whitelist := [] } :=
    ⟨.refl, formed, ranked,
      by simp [show Sequence.fresh.targets = [] from Sequence.targets_restart .fresh], nofun⟩
  have opened := (DrawsSince.upheld session.device.env bonded fun _ => False).putInForce bare.forScan
  have device : reported.device = Controller.final
      (Controller.putInForce session.device.forSequence) := by
    show (session.control Controller.startSequence).2.device = _
    rw [Session.control_device, Controller.startSequence_apply]
  rw [device]
  exact opened.draws.mono (fun _ => id) fun _ => (·.resolve_left id)

/-- From the report on, the peers that a device without a ranking draws on were bonded since its
ranking was empty, or are listed since the report. -/
theorem DrawsOn.since_erased (wired : session.Wired) (cleared : session.device.ranking = .empty)
    {middle behind : List (Move (Journaled ε))}
    (driven : ∀ move ∈ middle ++ behind, move.Driven) :
    let since := middle ++ .operation (.event .bondsErased) :: behind
    DrawsOn (fun peer => .bonded peer ∈ session.marks since) (session.Lists since)
      (session.after since).device := by
  intro since
  have first : ∀ move ∈ middle, move.Driven := fun move member =>
    driven move (List.mem_append_left _ member)
  -- Until the report only the ranking is known to be free of the erased peers.
  have recalls := Session.recalls_after wired (cleared ▸ Ranking.Recalls.empty) middle
  have reported := DrawsOn.of_report recalls.wellFormed fun peer =>
    Session.bonded_of_ranked wired cleared first
  have draws := reported.along ((wired.after middle).moved _) fun move member =>
    driven move (List.mem_append_right _ member)
  have ends : session.after since =
      Session.after ((session.after middle).moved (.operation (.event .bondsErased))).2 behind := by
    show session.after (middle ++ _) = _
    rw [Session.after, List.foldl_append]
    rfl
  rw [← ends] at draws
  refine draws.mono (fun peer bond => ?_) fun peer listed => Session.Lists.behind listed
  rw [Session.marks_append, List.mem_append]
  exact bond.imp_right (List.mem_append_right _)

/-- A move that erases the bonds leaves an empty ranking. -/
theorem Session.cleared_of_mark {move : Move (Journaled ε)}
    (marked : session.mark? move = some .erased) :
    (session.moved move).2.device.ranking = .empty := by
  have marks := Session.marks_of_mark? marked
  generalize (session.moved move).2.device.ranking = after at marks ⊢
  cases marks
  rfl

/-- A start gives no order to erase the bonds. -/
theorem start_unordered (device : Device (Journaled ε)) :
    (Controller.final (Controller.start device)).erasePending = device.erasePending := by
  have upheld := unerased_upheld device.restored.pruned.env device.erasePending
  have pruned : Unerased device.restored.pruned.env device.erasePending device.restored.pruned :=
    ⟨.refl, rfl⟩
  rw [Controller.start_apply]
  exact (Controller.final_bind _ (upheld.opened .sequence pruned) fun _ => upheld.saved).pending

/-- Behind a start it is ticks without a link that ask for the erasure of the bonds, once for each
order of the user at most, and such a tick clears the order and the ranking.  From the report of the
erasure on, whoever is in the ranking or detected was bonded since on a link that was up; and
whoever is in the whitelist was, or the registry has listed it since. -/
theorem erased_peers_stay_erased {ranking : Ranking} {env : Journaled ε} {reserved : Nat}
    {started : Session (Journaled ε)}
    (powered : Session.powerUp ranking env reserved = .ok started)
    {before : List (Move (Journaled ε))} (driven : ∀ move ∈ before, move.Driven) :
    let begun := (started.perform .start).2
    let session := begun.after before
    begun.erasuresAlong before ≤ before.countP Move.orders ∧
    (∀ moves : List (Move (Journaled ε)), (∀ move ∈ moves, move.Driven) →
      session.erasuresAlong moves ≤ session.device.erasePending.toNat + moves.countP Move.orders) ∧
    (∀ move : Move (Journaled ε), move.Driven → session.erasures move ≠ 0 → session.Erasure move) ∧
    (session.mark? (.operation .tick) = some .erased →
      ∀ middle behind : List (Move (Journaled ε)), (∀ move ∈ middle ++ behind, move.Driven) →
        let erased := (session.moved (.operation .tick)).2
        let since := middle ++ .operation (.event .bondsErased) :: behind
        let device := (erased.after since).device
        ∀ peer,
          (peer ∈ device.ranking.toList ∨ peer ∈ device.sequence.targets →
            .bonded peer ∈ erased.marks since) ∧
          (peer ∈ device.whitelist →
            .bonded peer ∈ erased.marks since ∨ erased.Lists since peer)) := by
  obtain ⟨wired, scanTimer, timers, device⟩ := Session.powerUp_eq_ok powered
  intro begun session
  have wired : begun.Wired := wired.moved (.operation .start)
  have unordered : begun.device.erasePending = false := by
    show (started.control Controller.start).2.device.erasePending = false
    rw [Session.control_device, start_unordered, device]
    rfl
  have reached : session.Wired := wired.after before
  refine ⟨?_, fun moves driven => ?_, fun move driven asked => ?_,
    fun marked middle behind driven => ?_⟩
  · have fewer := Session.erasuresAlong_le wired driven
    rw [unordered, Bool.toNat_false] at fewer
    omega
  · have fewer := Session.erasuresAlong_le reached driven
    omega
  · cases Session.moved_erasureStep reached driven with
    | erases erasure => exact erasure
    | ordered order unasked => exact absurd unasked asked
    | spared unasked same => exact absurd unasked asked
  · intro erased since device
    have draws := DrawsOn.since_erased (reached.moved _) (Session.cleared_of_mark marked) driven
    exact fun peer => ⟨fun kept => kept.elim (draws.ranking peer) (draws.detected peer),
      draws.whitelist peer⟩

end Runs

section Bench

/-- Two centrals bond, and the bonds are ordered to be erased.  Then one of them is detected by a
scan and sent away. -/
def orderInScan : List (Move (Journaled Platform)) :=
  [.operation (.request .pairingWindow), .operation (.event (.connected none ⟨7⟩)),
    .operation (.event (.bonded nearPeer)), .operation (.event (.bonded farPeer)),
    .operation (.event .disconnected), .operation (.request .eraseBonds),
    .operation (.event (.connected (some nearPeer) ⟨8⟩)), .operation (.event .disconnected)]

/-- The other one bonds again. -/
def bondAgain : List (Move (Journaled Platform)) :=
  [.operation (.event (.connected none ⟨9⟩)), .operation (.event (.bonded farPeer))]

theorem detected_peer_stays_erased :
    let session := (benchSession.perform .start).2.after orderInScan
    let erased := (session.moved (.operation .tick)).2
    let device := (erased.after (.operation (.event .bondsErased) :: bondAgain)).device
    session.device.sequence.targets = [nearPeer] ∧ session.Erasure (.operation .tick) ∧
      nearPeer ∉ device.ranking.toList ∧ nearPeer ∉ device.sequence.targets ∧
      device.ranking.toList = [farPeer] := by
  have powered : Session.powerUp _ _ 0 = .ok benchSession := Session.powerUp_fresh _ _
  have driven : ∀ move ∈ orderInScan, move.Driven := by simp [orderInScan, Move.Driven]
  have again : ∀ move ∈ [] ++ bondAgain, move.Driven := by simp [bondAgain, Move.Driven]
  obtain ⟨-, -, erases, stays⟩ := erased_peers_stay_erased powered driven
  have unbonded := (stays (by decide +kernel) [] bondAgain again nearPeer).1
  exact ⟨by decide +kernel, erases _ trivial (by decide +kernel),
    fun ranked => absurd (unbonded (.inl ranked)) (by decide +kernel),
    fun detected => absurd (unbonded (.inr detected)) (by decide +kernel), by decide +kernel⟩

end Bench

end BondedMouse
