import BondedMouse.Proofs.Controller.Saving
import BondedMouse.Proofs.Ranking.MoveToFront
import BondedMouse.Proofs.Session.Targets

/-! # The ranking and the history of bonds

The ranking is updated in place and forgets who falls off its end.  It still is what the
whole history of a session makes of it: the peers of all secured links since the last
erasure of the bonds, newest first and each of them once, behind them the ranking that
the start left, and of that list the first five.

Nor does a session touch its ranking but by the operations on rankings, so what they keep
holds of it wherever a run comes to.

The history of a run is read off its moves.  A `Mark` is a move that means something to
the ranking, and the moves between two marks leave the ranking alone, whatever the stack
and the store answer.
-/

namespace BondedMouse

/-! ## The rankings of a run -/

section Rankings

variable {ε : Type} [RadioStack ε] [RecordStore ε]

/-- Whatever the operations on rankings keep, a session keeps along its moves. -/
theorem Session.ranking_after {kept : Ranking → Prop} (closed : Ranking.Closed kept)
    {started : Session ε} (wired : started.Wired) (held : kept started.device.ranking)
    (moves : List (Move ε)) : kept (started.after moves).device.ranking := by
  induction moves generalizing started with
  | nil => exact held
  | cons move moves ih =>
    exact ih (wired.moved move) (closed.maintained.moved (fun _ held => held) wired held move)

/-- A session that is powered up with a ranking that the operations make has such a ranking wherever
a run comes to. -/
theorem rankings_stay_reached {ranking : Ranking} {env : ε} {reserved : Nat} {started : Session ε}
    (powered : Session.powerUp ranking env reserved = .ok started) (reached : ranking.Reached)
    (moves : List (Move ε)) : (started.after moves).device.ranking.Reached := by
  obtain ⟨wired, scanTimer, timers, device⟩ := Session.powerUp_eq_ok powered
  refine Session.ranking_after Ranking.reached_closed wired ?_ moves
  rw [device]
  exact reached

end Rankings

/-! ## Lists without repeats -/

section Lists

variable {α : Type} [DecidableEq α]

theorem filter_eraseDups (keep : α → Bool) (entries : List α) :
    (entries.filter keep).eraseDups = entries.eraseDups.filter keep := by
  match entries with
  | [] => rfl
  | first :: rest =>
    have shorter : (rest.filter fun entry => !entry == first).length < rest.length + 1 :=
      Nat.lt_succ_of_le (List.length_filter_le _ _)
    have behind := filter_eraseDups keep (rest.filter fun entry => !entry == first)
    rw [List.filter_filter] at behind
    rw [List.eraseDups_cons, List.filter_cons, List.filter_cons]
    split
    · rw [List.eraseDups_cons, List.filter_filter, ← behind]
      simp only [Bool.and_comm]
    · next dropped =>
      -- Who is not kept strikes nobody else that is.
      rw [← behind]
      congr 1
      refine List.filter_congr fun entry _ => ?_
      by_cases same : entry = first
      · simp [same, dropped]
      · simp [same]
termination_by entries.length

theorem nodup_eraseDups (entries : List α) : entries.eraseDups.Nodup := by
  match entries with
  | [] => exact List.nodup_nil
  | first :: rest =>
    have shorter : (rest.filter fun entry => !entry == first).length < rest.length + 1 :=
      Nat.lt_succ_of_le (List.length_filter_le _ _)
    rw [List.eraseDups_cons, List.nodup_cons]
    exact ⟨by simp, nodup_eraseDups _⟩
termination_by entries.length

theorem eraseDups_of_nodup {entries : List α} (distinct : entries.Nodup) :
    entries.eraseDups = entries := by
  induction distinct with
  | nil => rfl
  | @cons first rest apart distinct ih =>
    have others : (rest.filter fun entry => !entry == first) = rest :=
      List.filter_eq_self.2 fun entry member => by simpa using (apart entry member).symm
    rw [List.eraseDups_cons, others, ih]

/-- A new first entry takes its older place away. -/
theorem eraseDups_cons_eq_erase (first : α) (rest : List α) :
    (first :: rest).eraseDups = first :: rest.eraseDups.erase first := by
  rw [List.eraseDups_cons, filter_eraseDups, (nodup_eraseDups rest).erase_eq_filter]
  rfl

/-- What a list loses beyond its bound is not missed when an entry moves to the front. -/
theorem take_erase_take (entries : List α) (entry : α) (bound : Nat) :
    ((entries.take (bound + 1)).erase entry).take bound = (entries.erase entry).take bound := by
  induction entries generalizing bound with
  | nil => rfl
  | cons first rest ih =>
    rw [List.take_succ_cons]
    by_cases same : first = entry
    · subst same
      rw [List.erase_cons_head, List.erase_cons_head, List.take_take, Nat.min_self]
    · rw [List.erase_cons_tail (by simpa using same), List.erase_cons_tail (by simpa using same)]
      cases bound with
      | zero => rfl
      | succ bound => rw [List.take_succ_cons, List.take_succ_cons, ih]

end Lists

namespace Ranking

/-- The ranking holds the first peers of a history, each of them once. -/
def Recalls (ranking : Ranking) (history : List PeerId) : Prop :=
  ranking = .ofList history.eraseDups

namespace Recalls

variable {ranking : Ranking} {history : List PeerId}

theorem toList (recalls : ranking.Recalls history) :
    ranking.toList = history.eraseDups.take capacity := by
  rw [recalls, ← ofList_take, toList_ofList (List.length_take_le _ _)]

theorem wellFormed (recalls : ranking.Recalls history) : ranking.WellFormed := by
  rw [recalls, ← ofList_take]
  exact wellFormed_ofList (List.length_take_le _ _) (nodup_eraseDups history).take

/-- A well-formed ranking is its own history. -/
theorem of_wellFormed (formed : ranking.WellFormed) : ranking.Recalls ranking.toList := by
  rw [Recalls, eraseDups_of_nodup formed.distinct]
  exact formed.eq_ofList

theorem insert (recalls : ranking.Recalls history) (peer : PeerId) :
    (ranking.insert peer).2.Recalls (peer :: history) := by
  rw [Recalls, recalls.wellFormed.insert_eq, eraseDups_cons_eq_erase, recalls.toList,
    ← ofList_take, ← ofList_take (_ :: history.eraseDups.erase peer)]
  rw [List.take_succ_cons, List.take_succ_cons, take_erase_take]

theorem empty : Ranking.empty.Recalls [] := of_wellFormed wellFormed_closed.empty

end Recalls

end Ranking

/-! ## The history of a run -/

open Simulation

/-- The stack has erased the bonds, or is at it. -/
def Simulation.Call.erases : Call → Bool
  | .radio .forgetBonds (.ok ()) | .radio .forgetBonds (.error .busy) => true
  | _ => false

/-- What a move means to the ranking. -/
inductive Mark
  /-- The link's peer is bonded. -/
  | bonded (peer : PeerId)
  | erased
  /-- The session starts with a ranking. -/
  | started (peers : List PeerId)
  deriving DecidableEq

/-- The peers by which a history goes on, newest first. -/
def Mark.extend (history : List PeerId) : Mark → List PeerId
  | .bonded peer => peer :: history
  | .erased => []
  | .started peers => peers

section Runs

variable {ε : Type} [RadioStack ε] [RecordStore ε]

namespace Session

/-- The calls of a move, behind those that the journal had before. -/
def callsOf (session : Session (Journaled ε)) (operation : Operation) : List Call :=
  (session.perform operation).2.device.env.calls.drop session.device.env.calls.length

/-- What a move means to the ranking: a bond counts while the link is up, a tick if it erased the
bonds. -/
def mark? (session : Session (Journaled ε)) : Move (Journaled ε) → Option Mark
  | .operation (.event (.bonded peer)) =>
    match session.device.link with
    | .up _ => some (.bonded peer)
    | .down | .closing _ => none
  | .operation .tick => if (session.callsOf .tick).any Call.erases then some .erased else none
  | .operation .start => some (.started (session.perform .start).2.device.ranking.toList)
  | _ => none

def marks (session : Session (Journaled ε)) : List (Move (Journaled ε)) → List Mark
  | [] => []
  | move :: moves => (session.mark? move).toList ++ (session.moved move).2.marks moves

end Session

/-! ## Ticks -/

/-- The ranking is emptied if one of the calls erased the bonds, and else left alone. -/
def EmptiedBy (device after : Device (Journaled ε)) : Prop :=
  ∃ calls, after.env.calls = device.env.calls ++ calls ∧
    after.ranking = if calls.any Call.erases then .empty else device.ranking

namespace EmptiedBy

variable {device middle after : Device (Journaled ε)}

omit [RadioStack ε] [RecordStore ε] in
theorem trans (first : EmptiedBy device middle) (rest : EmptiedBy middle after) :
    EmptiedBy device after := by
  obtain ⟨calls, appended, ranking⟩ := first
  obtain ⟨more, appendedMore, rankingMore⟩ := rest
  refine ⟨calls ++ more, by rw [appendedMore, appended, List.append_assoc], ?_⟩
  rw [rankingMore, ranking, List.any_append]
  cases calls.any Call.erases <;> cases more.any Call.erases <;> rfl

omit [RadioStack ε] [RecordStore ε] in
/-- Other requests, and calls to the store, erase nothing. -/
theorem of_makes {requests : List RadioRequest} (makes : MakesOnly requests device.env after.env)
    (keeps : .forgetBonds ∉ requests) (same : after.ranking = device.ranking) :
    EmptiedBy device after := by
  obtain ⟨calls, appended, allowed⟩ := makes
  have spared : calls.any Call.erases = false := by
    rw [List.any_eq_false]
    intro call member erases
    cases call with
    | radio request result =>
      cases request with
      | forgetBonds => exact keeps (allowed _ _ member)
      | whitelist | identities | start | stop | disconnect | movement => cases erases
    | read | write | reclaim => cases erases
  exact ⟨calls, appended, by rw [spared]; exact same⟩

end EmptiedBy

open Controller

/-- The stack answers the request to erase the bonds exactly where that counts as an erasure. -/
theorem erases_forgetBonds (result : Except StackError Unit) :
    (Call.radio .forgetBonds result).erases = true ↔
      tolerate RadioRequest.forgetBonds.tolerated result = .ok () := by
  cases result with
  | ok => exact ⟨fun _ => rfl, fun _ => rfl⟩
  | error error => cases error <;> simp [Call.erases, tolerate, RadioRequest.tolerated]

omit [RecordStore ε] in
theorem eraseWhenDown_empties (device : Device (Journaled ε)) :
    EmptiedBy device (final (eraseWhenDown device)) := by
  have erases := eraseWhenDown_erases device
  generalize eraseWhenDown device = result at erases
  cases erases with
  | spared keeps => exact .of_makes (.refl [] _) (by simp) rfl
  | refused pending down refuses =>
    cases refuses with
    | here refused =>
      have spared : ¬(Call.radio .forgetBonds
          (RadioStack.request .forgetBonds device.env).1).erases = true := by
        rw [erases_forgetBonds, refused]
        nofun
      refine ⟨[.radio .forgetBonds (RadioStack.request .forgetBonds device.env).1], rfl, ?_⟩
      rw [List.any_cons, List.any_nil, Bool.or_false, if_neg spared]
      rfl
    | later answered rest => cases rest
  | erased pending down answers =>
    cases answers with
    | next answered rest =>
      cases rest
      refine ⟨[.radio .forgetBonds (RadioStack.request .forgetBonds device.env).1], rfl, ?_⟩
      rw [List.any_cons, List.any_nil, Bool.or_false, if_pos ((erases_forgetBonds _).2 answered)]
      rfl

/-- A tick empties the ranking if it erased the bonds, and else leaves it alone. -/
theorem tick_empties (device : Device (Journaled ε)) :
    EmptiedBy device (final (tick device)) := by
  cases recorded : device.fault with
  | some fault =>
    rw [tick_fault recorded]
    exact .of_makes (.refl [] _) (by simp) rfl
  | none =>
    have reconciled : EmptiedBy device (final (reconcile device)) :=
      .of_makes (.of_asks (reconcile_asks device) (List.Subset.refl _))
        device.forgetBonds_not_mem_reconcileRequests (reconcile_spares device).ranking
    rw [tick_apply recorded]
    refine final_bind _ reconciled fun middle first => ?_
    refine final_bind _ (first.trans (eraseWhenDown_empties middle)) fun erased rest => ?_
    exact rest.trans (.of_makes (saveRanking_makes [] erased) (by simp) (ranking_saveRanking erased))

/-! ## Marks and the ranking -/

omit [RadioStack ε] in
/-- A bond moves the peer to the front, if the link is up. -/
theorem ranking_onBonded (peer : PeerId) (device : Device ε) :
    (final (onBonded peer device)).ranking =
      match device.link with
      | .up _ => (device.ranking.insert peer).2
      | .down | .closing _ => device.ranking := by
  rw [onBonded_apply]
  cases device.link with
  | down | closing handle => rfl
  | up handle =>
    dsimp only
    split
    · exact ranking_saveRanking _
    · rfl

theorem Session.ranking_tick (session : Session (Journaled ε)) :
    (session.perform .tick).2.device.ranking =
      if (session.callsOf .tick).any Call.erases then .empty else session.device.ranking := by
  obtain ⟨calls, appended, ranking⟩ := tick_empties session.device
  rw [← Session.control_device] at appended ranking
  have called : session.callsOf .tick = calls := by
    unfold Session.callsOf
    rw [Session.perform, appended, List.drop_left]
  rw [called]
  exact ranking

/-- Without a mark a move leaves the ranking alone. -/
theorem Session.ranking_unmarked {session : Session (Journaled ε)} (wired : session.Wired)
    {move : Move (Journaled ε)} (unmarked : session.mark? move = none) :
    (session.moved move).2.device.ranking = session.device.ranking := by
  have controlled {program : ControlM (Journaled ε) Unit}
      (spares : Spares session.device (final (program session.device))) :
      (session.control program).2.device.ranking = session.device.ranking := by
    rw [Session.control_device]
    exact spares.ranking
  cases move with
  | outside env => rfl
  | operation operation =>
    cases operation with
    | start => cases unmarked
    | startSequence => exact controlled (startSequence_spares _)
    | setMode mode target => exact controlled (setMode_spares mode target _)
    | request request => exact controlled (onRequest_spares request _)
    | scanTimeout => exact (onScanTimer_rings session.device).spares.ranking
    | timerTick => rfl
    | timerStep => exact (Session.timerStep_spares wired).ranking
    | tick =>
      have kept : ¬(session.callsOf .tick).any Call.erases = true := by
        simpa only [Session.mark?, ite_eq_right_iff, reduceCtorEq, imp_false] using unmarked
      show (session.perform .tick).2.device.ranking = _
      rw [session.ranking_tick, if_neg kept]
    | event event =>
      cases event with
      | connected peer handle => exact controlled (onConnected_spares peer handle _)
      | disconnected => exact controlled (onDisconnected_spares _)
      | timedOut window => exact controlled (onTimedOut_spares window _)
      | storageFull =>
        show (session.control onStorageFull).2.device.ranking = _
        rw [Session.control_device, final_onStorageFull]
      | bondsErased => exact controlled (startSequence_spares _)
      | bonded peer =>
        have ranking := ranking_onBonded peer session.device
        rw [← Session.control_device] at ranking
        cases link : session.device.link with
        | up handle => simp [Session.mark?, link] at unmarked
        | down | closing handle =>
          rw [link] at ranking
          exact ranking

/-- A start takes a ranking from the store, or keeps its own, and drops peers from it. -/
theorem start_wellFormed {device : Device (Journaled ε)} (formed : device.ranking.WellFormed) :
    (final (start device)).ranking.WellFormed :=
  Ranking.wellFormed_closed.maintained.start formed

/-- What a move with a mark makes of the ranking. -/
inductive Marks (ranking : Ranking) (move : Move (Journaled ε)) : Mark → Ranking → Prop
  | bonded (peer : PeerId) : Marks ranking move (.bonded peer) (ranking.insert peer).2
  | erased : Marks ranking move .erased .empty
  | started {after : Ranking} (starts : move = .operation .start)
      (formed : ranking.WellFormed → after.WellFormed) :
      Marks ranking move (.started after.toList) after

theorem Session.marks_of_mark? {session : Session (Journaled ε)} {move : Move (Journaled ε)}
    {mark : Mark} (marked : session.mark? move = some mark) :
    Marks session.device.ranking move mark (session.moved move).2.device.ranking := by
  unfold Session.mark? at marked
  split at marked
  · next peer =>
    have ranking := ranking_onBonded peer session.device
    rw [← Session.control_device] at ranking
    cases link : session.device.link with
    | down | closing handle => simp [link] at marked
    | up handle =>
      rw [link] at ranking marked
      cases marked
      show Marks _ _ _ (session.control (onBonded peer)).2.device.ranking
      rw [ranking]
      exact .bonded peer
  · split at marked
    · next erased =>
      cases marked
      show Marks _ _ _ (session.perform .tick).2.device.ranking
      rw [session.ranking_tick, if_pos erased]
      exact .erased
    · cases marked
  · cases marked
    refine .started rfl fun formed => ?_
    show (session.control start).2.device.ranking.WellFormed
    rw [Session.control_device]
    exact start_wellFormed formed
  · cases marked

omit [RadioStack ε] [RecordStore ε] in
theorem Marks.recalls {ranking after : Ranking} {move : Move (Journaled ε)} {mark : Mark}
    {history : List PeerId} (marks : Marks ranking move mark after)
    (recalls : ranking.Recalls history) : after.Recalls (mark.extend history) := by
  cases marks with
  | bonded peer => exact recalls.insert peer
  | erased => exact .empty
  | started starts formed => exact .of_wellFormed (formed recalls.wellFormed)

omit [RadioStack ε] [RecordStore ε] in
/-- Who comes into the ranking has just been bonded, unless the session starts again. -/
theorem Marks.newcomer {ranking after : Ranking} {move : Move (Journaled ε)} {mark : Mark}
    {peer : PeerId} (marks : Marks ranking move mark after) (formed : ranking.WellFormed)
    (out : peer ∉ ranking.toList) (inside : peer ∈ after.toList) :
    mark = .bonded peer ∨ move = .operation .start := by
  cases marks with
  | bonded newest =>
    rw [formed.toList_insert] at inside
    obtain rfl | older := List.mem_cons.1 (List.mem_of_mem_take inside)
    · exact .inl rfl
    · exact absurd (List.mem_of_mem_erase older) out
  | erased => exact absurd inside List.not_mem_nil
  | started starts formed => exact .inr starts

theorem Session.recalls_moved {session : Session (Journaled ε)} (wired : session.Wired)
    {history : List PeerId} (recalls : session.device.ranking.Recalls history)
    (move : Move (Journaled ε)) :
    (session.moved move).2.device.ranking.Recalls
      ((session.mark? move).toList.foldl Mark.extend history) := by
  cases marked : session.mark? move with
  | none =>
    rw [session.ranking_unmarked wired marked]
    exact recalls
  | some mark => exact (Session.marks_of_mark? marked).recalls recalls

/-- Along a run the ranking follows the history. -/
theorem Session.recalls_after {session : Session (Journaled ε)} (wired : session.Wired)
    {history : List PeerId} (recalls : session.device.ranking.Recalls history)
    (moves : List (Move (Journaled ε))) :
    (session.after moves).device.ranking.Recalls
      ((session.marks moves).foldl Mark.extend history) := by
  induction moves generalizing session history with
  | nil => exact recalls
  | cons move moves ih =>
    rw [Session.marks, List.foldl_append]
    exact ih (wired.moved move) (Session.recalls_moved wired recalls move)

/-- The ranking holds the first five of the peers whose links were secured since the last erasure
of the bonds, newest first and each once; behind them, if nothing was erased since, stands the
ranking that the start left.  A move that is neither a bond on a link that is up, nor a tick that
erases the bonds, nor another start leaves it alone, and who is not in the ranking comes in by
such a bond or start only. -/
theorem ranking_is_recency {ranking : Ranking} (formed : ranking.WellFormed) {env : Journaled ε}
    {reserved : Nat} {started : Session (Journaled ε)}
    (powered : Session.powerUp ranking env reserved = .ok started)
    (moves : List (Move (Journaled ε))) :
    let begun := (started.perform .start).2
    let session := begun.after moves
    session.device.ranking.toList =
      ((begun.marks moves).foldl Mark.extend begun.device.ranking.toList).eraseDups.take
        Ranking.capacity ∧
    ∀ move : Move (Journaled ε),
      (session.mark? move = none →
        (session.moved move).2.device.ranking = session.device.ranking) ∧
      ∀ peer, peer ∉ session.device.ranking.toList →
        peer ∈ (session.moved move).2.device.ranking.toList →
          session.mark? move = some (.bonded peer) ∨ move = .operation .start := by
  obtain ⟨wired, scanTimer, timers, device⟩ := Session.powerUp_eq_ok powered
  intro begun session
  have begins : begun.device.ranking.Recalls begun.device.ranking.toList := by
    refine .of_wellFormed ?_
    show (started.control start).2.device.ranking.WellFormed
    rw [Session.control_device]
    exact start_wellFormed (by rw [device]; exact formed)
  have wired : begun.Wired := wired.moved (.operation .start)
  have recalls := Session.recalls_after wired begins moves
  refine ⟨recalls.toList, fun move =>
    ⟨Session.ranking_unmarked (wired.after moves), fun peer out inside => ?_⟩⟩
  cases marked : session.mark? move with
  | none =>
    rw [Session.ranking_unmarked (wired.after moves) marked] at inside
    exact absurd inside out
  | some mark =>
    obtain rfl | starts := (Session.marks_of_mark? marked).newcomer recalls.wellFormed out inside
    · exact .inl rfl
    · exact .inr starts

end Runs

section Bench

/-- Two centrals bond, and the first of them once more; then the bonds are erased, and the second
bonds again. -/
def bondsAndErasure : List (Move (Journaled Platform)) :=
  [.operation (.request .pairingWindow), .operation (.event (.connected none ⟨7⟩)),
    .operation (.event (.bonded nearPeer)), .operation (.event (.bonded farPeer)),
    .operation (.event (.bonded nearPeer)), .operation (.request .eraseBonds),
    .operation (.event .disconnected), .operation .tick, .operation (.event .bondsErased),
    .operation (.event (.connected none ⟨8⟩)), .operation (.event (.bonded farPeer))]

theorem ranking_is_recency_of_bonds :
    let begun := (benchSession.perform .start).2
    (begun.after (bondsAndErasure.take 5)).device.ranking.toList = [nearPeer, farPeer] ∧
    (begun.after bondsAndErasure).device.ranking.toList = [farPeer] := by
  have powered : Session.powerUp _ _ 0 = .ok benchSession := Session.powerUp_fresh _ _
  have empty : Ranking.empty.WellFormed := Ranking.wellFormed_closed.empty
  have before := (ranking_is_recency empty powered (bondsAndErasure.take 5)).1
  have behind := (ranking_is_recency empty powered bondsAndErasure).1
  exact ⟨before.trans (by decide +kernel), behind.trans (by decide +kernel)⟩

end Bench

end BondedMouse
