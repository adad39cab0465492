import BondedMouse.Proofs.Session.Scan

/-! # The windows behind a scan

A scan window is followed from the move that opens it to the one that ends it, with the
peers that it accepts; what it has noted by then are the ranked ones among them.  When
a detection or the timer ends it, each of these has a directed window, in the order of
the ranks, and then the pass is over.
-/

namespace BondedMouse

variable {ε : Type} [RadioStack ε] [RecordStore ε]

open Controller

/-! ## While the scan lasts -/

section Lasts

variable {ranking : Ranking} {accepted : List PeerId} {device after : Device ε} {move : Move ε}

omit [RadioStack ε] [RecordStore ε] in
theorem SameScan.allDetected (same : SameScan device after) :
    Controller.allDetected after = Controller.allDetected device := by
  rw [Controller.allDetected, Controller.allDetected, same.sequence, same.ranking]

omit [RadioStack ε] [RecordStore ε] in
theorem Scanning.notes_accept (scanning : Scanning ranking accepted device) (peer : PeerId) :
    (device.noted peer).sequence.Notes ranking (accepted ++ [peer]) := by
  have formed := scanning.ranked
  have notes := scanning.notes
  rw [← scanning.holds] at notes ⊢
  exact notes.accept formed peer

/-- A scan window whose number stays goes on. -/
theorem ScanStep.scanning (step : ScanStep device move after)
    (scanning : Scanning ranking accepted device) (calm : Calm Ranking.WellFormed after)
    (stays : after.window = device.window) :
    Scanning ranking (accepted ++ move.accepts device) after := by
  cases step with
  | waits nobody early same =>
    rw [nobody, List.append_nil]
    exact ⟨calm, same.mode.trans scanning.mode, same.ranking.trans scanning.holds,
      same.sequence ▸ scanning.notes, same.allDetected.trans scanning.more⟩
  | notes somebody more same =>
    rw [somebody]
    exact ⟨calm, same.mode.trans scanning.mode, same.ranking.trans scanning.holds,
      same.sequence ▸ scanning.notes_accept _, same.allDetected.trans more⟩
  -- The other three ways open a window, which takes a new number.
  | detects somebody all turned => exact absurd stays turned.numbered
  | rings rings turned => exact absurd stays turned.numbered
  | restarts restarts numbered => exact absurd stays numbered

omit [RadioStack ε] [RecordStore ε] in
/-- All is detected when the ranked peers among the accepted ones are all that have a rank. -/
theorem Scanning.allDetected_noted (scanning : Scanning ranking accepted device) (peer : PeerId) :
    allDetected (device.noted peer) = true ↔
      1 ≤ (ranking.among (accepted ++ [peer])).length ∧
        (ranking.among (accepted ++ [peer])).length = ranking.count := by
  have formed : ranking.WellFormed := scanning.holds ▸ scanning.ranked
  have most : (ranking.among (accepted ++ [peer])).length ≤ ranking.toList.length :=
    List.length_filter_le _ _
  have holds : (device.noted peer).ranking = ranking := scanning.holds
  -- The count of the sequence is that of the ranked peers among the accepted ones.
  rw [allDetected, (scanning.notes_accept peer).count, holds, formed.count_eq]
  simp only [Bool.and_eq_true, decide_eq_true_eq]
  omega

end Lasts

/-! ## Runs through a scan window -/

/-- Moves that leave a window in force, with the known peers that they accept. -/
inductive ScanRun (opened : Session ε) : List PeerId → Session ε → Prop
  | opened : ScanRun opened [] opened
  | move {accepted : List PeerId} {session : Session ε} (run : ScanRun opened accepted session)
      {move : Move ε} (continues : session.Continues move)
      (stays : (session.moved move).2.device.window = session.device.window) :
      ScanRun opened (accepted ++ move.accepts session.device) (session.moved move).2

omit [RecordStore ε] in
theorem setMode_restarts (mode : Mode) (target : Option PeerId) (device : Device ε)
    (scan : (final (setMode mode target device)).mode = .scan) :
    ∃ earlier : Sequence, (final (setMode mode target device)).sequence = earlier.restart := by
  by_cases idle : mode = .idle
  · subst idle
    -- The idle mode is the one that no window is put into force for.
    have same : SameWindow device.forRest.silenced (final (setMode .idle target device)) :=
      (silence_asks device.forRest).sameWindow
    exact absurd (same.mode.symm.trans scan) nofun
  · obtain ⟨described, describes, opens⟩ := setMode_opens target device idle
    rw [opens] at scan ⊢
    have same := (putInForce_asks described).sameWindow
    obtain ⟨earlier, restarted⟩ := describes.restarts (same.mode.symm.trans scan)
    exact ⟨earlier, same.sequence.trans restarted⟩

/-- A window begins with nobody detected if it is a scan, whatever opened it. -/
theorem Session.moved_restarts {session : Session ε} (wired : session.Wired) {move : Move ε}
    (opens : (session.moved move).2.device.window ≠ session.device.window)
    (scan : (session.moved move).2.device.mode = .scan) :
    ∃ earlier : Sequence, (session.moved move).2.device.sequence = earlier.restart := by
  -- The firmware's own moves open windows by `Opens`; what is left is the raw change of mode.
  by_cases regular : move.Regular
  · cases Session.moved_turns wired regular with
    | beside same quiet => exact absurd same.window opens
    | detected scans single mode profile window whitelist phase => exact absurd window opens
    | opened described window first same rest =>
      obtain ⟨earlier, restarted⟩ := described.restarts (same.mode.symm.trans scan)
      exact ⟨earlier, same.sequence.trans restarted⟩
  · cases move with
    | outside env => exact absurd trivial regular
    | operation operation =>
      cases operation with
      | setMode mode target =>
        rw [Session.moved, Session.perform, Session.control_device] at scan ⊢
        exact setMode_restarts mode target session.device scan
      | _ => exact absurd trivial regular

theorem Scanning.opened {started before : Session ε} (run : CleanRun started before)
    (wired : started.Wired) (calm : Calm Ranking.WellFormed started.device) {opening : Move ε}
    (untroubled : before.Untroubled opening)
    (opens : (before.moved opening).2.device.window ≠ before.device.window)
    (scan : (before.moved opening).2.device.mode = .scan) :
    Scanning (before.moved opening).2.device.ranking [] (before.moved opening).2.device := by
  have closed := Ranking.wellFormed_closed
  have after := (run.calm closed wired calm).moved closed (run.wired wired) untroubled
  obtain ⟨earlier, restarted⟩ := Session.moved_restarts (run.wired wired) opens scan
  refine ⟨after, scan, rfl, restarted ▸ .restart _ _, ?_⟩
  rw [allDetected, restarted]
  rfl

theorem ScanRun.wired {opened session : Session ε} {accepted : List PeerId}
    (run : ScanRun opened accepted session) (wired : opened.Wired) : session.Wired := by
  induction run with
  | opened => exact wired
  | move run continues stays ih => exact ih.moved _

theorem ScanRun.scanning {opened session : Session ε} {ranking : Ranking} {accepted : List PeerId}
    (run : ScanRun opened accepted session) (wired : opened.Wired)
    (scanning : Scanning ranking [] opened.device) : Scanning ranking accepted session.device := by
  -- The invariant is handed on by every move that leaves the number of the window.
  induction run with
  | opened => exact scanning
  | move run continues stays ih =>
    have step := ih.step (run.wired wired) continues
    have calm := ih.toCalm.moved Ranking.wellFormed_closed (run.wired wired) continues.toUntroubled
    exact step.scanning ih calm stays

/-! ## The directed windows -/

/-- The session once its window has timed out. -/
def Session.expired (session : Session ε) : Session ε :=
  (session.moved (.operation (.event (.timedOut session.device.window)))).2

/-- Some windows have ended, one after the other, each by its own timeout.  What else happens
leaves the window in force. -/
inductive Expirations (first : Session ε) : Nat → Session ε → Prop
  | none : Expirations first 0 first
  | stays {count : Nat} {session : Session ε} (run : Expirations first count session) {move : Move ε}
      (regular : move.Regular)
      (stays : (session.moved move).2.device.window = session.device.window) :
      Expirations first count (session.moved move).2
  | expires {count : Nat} {session : Session ε} (run : Expirations first count session) :
      Expirations first (count + 1) session.expired

/-- A pass has ended: the device scans again or, after the last pass, advertises for every bonded
peer.  If the registry turned out to be empty it opens the pairing window instead. -/
structure PassOver (passes : Nat) (device : Device ε) : Prop where
  counted : device.sequence.passes = passes + 1
  mode : device.mode = .pairing ∨
    device.mode = if Sequence.maxPasses ≤ passes + 1 then .anyBonded else .scan

namespace PassOver

omit [RecordStore ε] in
theorem forScan {passes : Nat} {device : Device ε} (counted : device.sequence.passes = passes + 1)
    (more : ¬Sequence.maxPasses ≤ passes + 1) : PassOver passes device.forScan := by
  unfold Device.forScan
  dsimp only
  split
  · exact ⟨counted, .inl rfl⟩
  · exact ⟨counted, .inr (if_neg more).symm⟩

omit [RecordStore ε] in
theorem forAnyBonded {passes : Nat} {device : Device ε}
    (counted : device.sequence.passes = passes + 1) (spent : Sequence.maxPasses ≤ passes + 1) :
    PassOver passes device.forAnyBonded := by
  unfold Device.forAnyBonded
  dsimp only
  split
  · exact ⟨counted, .inl rfl⟩
  · exact ⟨counted, .inr (if_pos spent).symm⟩

omit [RadioStack ε] [RecordStore ε] in
theorem of_same {passes : Nat} {device after : Device ε} (spent : PassOver passes device)
    (same : SameWindow device after) : PassOver passes after where
  counted := same.sequence ▸ spent.counted
  mode := same.mode ▸ spent.mode

end PassOver

namespace Offering

variable {targets : List PeerId} {place passes : Nat} {device after : Device ε}
  {session : Session ε}

omit [RadioStack ε] [RecordStore ε] in
theorem of_same (offering : Offering targets place passes device) (same : SameWindow device after) :
    Offering targets place passes after where
  mode := same.mode.trans offering.mode
  walks := same.sequence ▸ offering.walks
  passes := same.sequence ▸ offering.passes
  whitelist := same.whitelist ▸ offering.whitelist

/-- A directed window whose number stays goes on. -/
theorem of_turns (offering : Offering targets place passes device) {accepted : List PeerId}
    (turns : Turns device accepted after) (stays : after.window = device.window) :
    Offering targets place passes after := by
  cases turns with
  | beside same quiet => exact offering.of_same same
  | detected scans => exact absurd (scans.2.symm.trans offering.walks.phase) (by decide)
  | opened opens window first same rest =>
    rw [same.window, ← window] at stays
    exact absurd stays opens.numbered

omit [RecordStore ε] in
theorem forNext_next (offering : Offering targets place passes device) {peer : PeerId}
    (next : targets[place + 1]? = some peer) :
    Offering targets (place + 1) passes device.stopped.forNext := by
  have turn : device.stopped.sequence.turn = _ := offering.walks.turn_next next
  unfold Device.forNext
  rw [turn]
  exact ⟨rfl, offering.walks.advance, offering.passes, peer, next, rfl⟩

omit [RecordStore ε] in
theorem forNext_last (offering : Offering targets place passes device)
    (last : targets[place + 1]? = none) : PassOver passes device.stopped.forNext := by
  -- Behind the last target the pass is counted, and the count says what follows.
  have turn : device.stopped.sequence.turn = _ := offering.walks.turn_last last
  unfold Device.forNext
  rw [turn, offering.passes]
  by_cases spent : Sequence.maxPasses ≤ passes + 1
  · rw [if_pos spent]
    exact .forAnyBonded rfl spent
  · rw [if_neg spent]
    exact .forScan rfl spent

/-- A directed window that times out gives way to the next description. -/
theorem expired (offering : Offering targets place passes session.device) :
    SameWindow session.device.stopped.forNext session.expired.device := by
  rw [Session.expired, Session.moved, Session.perform, Session.control_device]
  change SameWindow _ (final (onTimedOut session.device.window session.device))
  have expires := onTimedOut_expires session.device
  generalize onTimedOut session.device.window session.device = result at expires
  cases expires with
  | ignored undirected closed => exact absurd offering.mode undirected
  | rested mode => exact absurd (mode.symm.trans offering.mode) (by decide)
  | scanned mode phase => exact absurd (phase.symm.trans offering.walks.phase) (by decide)
  | offered mode phase =>
    -- Putting it into force touches the link and the flags only.
    have shifted : SameWindow session.device.stopped.forNext
        session.device.stopped.forNext.silenced.advertised := ⟨rfl, rfl, rfl, rfl, rfl⟩
    exact shifted.trans (putInForce_asks _).sameWindow

end Offering

namespace Expirations

variable {first session : Session ε} {count : Nat}

theorem wired (run : Expirations first count session) (wired : first.Wired) : session.Wired := by
  induction run with
  | none => exact wired
  | stays run regular stays ih => exact ih.moved _
  | expires run ih => exact ih.moved _

/-- After each expiry it is the next target's turn. -/
theorem offering {targets : List PeerId} {passes : Nat} (run : Expirations first count session)
    (wired : first.Wired) (offering : Offering targets 0 passes first.device)
    (inside : count < targets.length) : Offering targets count passes session.device := by
  induction run with
  | none => exact offering
  | stays run regular stays ih =>
    exact (ih inside).of_turns (Session.moved_turns (run.wired wired) regular) stays
  -- An expiry moves on by one place, as long as there is one.
  | expires run ih =>
    have before := ih (by omega)
    exact (before.forNext_next (List.getElem?_eq_getElem inside)).of_same before.expired

end Expirations

/-- Each target has a directed window in its turn, and behind the last the pass is over. -/
structure OffersInTurn (targets : List PeerId) (passes : Nat) (first : Session ε) : Prop where
  offers : ∀ {count : Nat} {session : Session ε}, Expirations first count session →
    ∀ inside : count < targets.length,
      session.device.mode = .directed ∧ session.device.sequence.target? = some targets[count] ∧
        session.device.whitelist = [targets[count]]
  ends : ∀ {count : Nat} {session : Session ε}, Expirations first count session →
    count + 1 = targets.length → PassOver passes session.expired.device

theorem Offering.offersInTurn {targets : List PeerId} {passes : Nat} {first : Session ε}
    (offering : Offering targets 0 passes first.device) (wired : first.Wired) :
    OffersInTurn targets passes first where
  offers := by
    intro count session run inside
    obtain ⟨mode, walks, -, peer, found, whitelist⟩ := run.offering wired offering inside
    rw [List.getElem?_eq_getElem inside] at found
    cases found
    exact ⟨mode, walks.target?.trans (List.getElem?_eq_getElem inside), whitelist⟩
  ends := by
    intro count session run last
    have before := run.offering wired offering (by omega)
    have beyond : targets.length ≤ count + 1 := by omega
    exact (before.forNext_last (List.getElem?_eq_none beyond)).of_same before.expired

/-! ## The outcome of a scan window -/

def Session.Ends (session : Session ε) (move : Move ε) : Prop :=
  (session.moved move).2.device.window ≠ session.device.window

/-- What a move means for a scan window that by then, this move included, has detected some peers
out of a ranking. -/
structure ScanOutcome (ranking : Ranking) (detected : List PeerId) (session : Session ε)
    (move : Move ε) : Prop where
  /-- An accepted peer ends the scan when it makes the detections complete. -/
  detection : move.accepts session.device ≠ [] →
    (session.Ends move ↔ 1 ≤ detected.length ∧ detected.length = ranking.count)
  timer : move = .operation .scanTimeout → session.Ends move
  causes : session.Ends move →
    move.accepts session.device ≠ [] ∨ move.Rings ∨ move.Restarts
  nobody : session.Ends move → ¬move.Restarts → detected = [] →
    Rescans session.device (session.moved move).2.device
  somebody : session.Ends move → ¬move.Restarts → detected ≠ [] →
    OffersInTurn detected session.device.sequence.passes (session.moved move).2

section Outcome

variable {ranking : Ranking} {accepted : List PeerId} {sequence : Sequence} {session : Session ε}
  {move : Move ε}

omit [RadioStack ε] [RecordStore ε] in
theorem Move.Rings.accepts (rings : move.Rings) (device : Device ε) : move.accepts device = [] := by
  cases rings <;> rfl

omit [RadioStack ε] [RecordStore ε] in
theorem Move.Restarts.accepts (restarts : move.Restarts) (device : Device ε) :
    move.accepts device = [] := by
  cases restarts <;> rfl

/-- A window that gives way to those behind it offers them to the noted peers. -/
theorem Turned.somebody
    (turned : Turned sequence session.device (session.moved move).2.device)
    (notes : sequence.Notes ranking accepted) (wired : session.Wired)
    (somebody : ranking.among accepted ≠ []) :
    OffersInTurn (ranking.among accepted) sequence.passes (session.moved move).2 := by
  rw [← notes.targets] at somebody ⊢
  exact (turned.offering somebody notes.count_targets).offersInTurn (wired.moved move)

theorem Turned.nobody (turned : Turned sequence session.device (session.moved move).2.device)
    (notes : sequence.Notes ranking accepted) (nobody : ranking.among accepted = []) :
    Rescans session.device (session.moved move).2.device :=
  turned.rescans (notes.targets.trans nobody)

theorem ScanStep.outcome (step : ScanStep session.device move (session.moved move).2.device)
    (scanning : Scanning ranking accepted session.device) (wired : session.Wired) :
    ScanOutcome ranking (ranking.among (accepted ++ move.accepts session.device)) session move := by
  cases step with
  | waits none early same =>
    have lasts : ¬session.Ends move := fun ends => ends same.window
    exact ⟨fun some => absurd none some, fun rings => absurd rings early,
      fun ends => absurd ends lasts, fun ends => absurd ends lasts, fun ends => absurd ends lasts⟩
  -- A peer that leaves the detections incomplete does not end the scan.
  | @notes peer some more same =>
    have lasts : ¬session.Ends move := fun ends => ends same.window
    have incomplete := mt (scanning.allDetected_noted peer).2 (by simp [more])
    rw [some]
    refine ⟨fun _ => ⟨fun ends => absurd ends lasts, fun complete => absurd complete incomplete⟩,
      ?_, fun ends => absurd ends lasts, fun ends => absurd ends lasts, fun ends => absurd ends lasts⟩
    rintro rfl
    cases some
  | @detects peer some all turned =>
    have complete := (scanning.allDetected_noted peer).1 all
    have notes := scanning.notes_accept peer
    have ends : session.Ends move := turned.numbered
    rw [some]
    refine ⟨fun _ => ⟨fun _ => complete, fun _ => ends⟩, fun _ => ends,
      fun _ => .inl (by simp [some]), fun _ _ => turned.nobody notes, fun _ _ => ?_⟩
    -- The passes are counted with the detection noted, which does not change them.
    rw [← session.device.passes_noted peer]
    exact turned.somebody notes wired
  | rings rings turned =>
    have ends : session.Ends move := turned.numbered
    rw [rings.accepts, List.append_nil]
    exact ⟨fun some => absurd (rings.accepts _) some, fun _ => ends, fun _ => .inr (.inl rings),
      fun _ _ => turned.nobody scanning.notes, fun _ _ => turned.somebody scanning.notes wired⟩
  | restarts restarts numbered =>
    refine ⟨fun some => absurd (restarts.accepts _) some, fun _ => numbered,
      fun _ => .inr (.inr restarts), fun _ other => absurd restarts other,
      fun _ other => absurd restarts other⟩

/-- A scan window ends when all ranked peers are detected, by its timer, or when another window is
opened over it.  Those that it detected are offered directed windows in the order of the ranks; if
there are none, the device scans again. -/
theorem scan_leads_to_its_targets {stored : Ranking} (formed : stored.WellFormed) {env : ε}
    {reserved : Nat} {started before : Session ε}
    (powered : Session.powerUp stored env reserved = .ok started) (run : CleanRun started before)
    {opening : Move ε} (untroubled : before.Untroubled opening) (opens : before.Ends opening)
    (scan : (before.moved opening).2.device.mode = .scan)
    (lasts : ScanRun (before.moved opening).2 accepted session)
    (continues : session.Continues move) :
    let ranking := (before.moved opening).2.device.ranking
    let seen := accepted ++ move.accepts session.device
    let detected := ranking.among seen
    (∀ peer, peer ∈ detected ↔ peer ∈ seen ∧ (ranking.rankOf? peer).isSome) ∧
    detected.Pairwise (fun peer other => ∃ rank later, ranking.rankOf? peer = some rank ∧
      ranking.rankOf? other = some later ∧ rank < later) ∧
    ScanOutcome ranking detected session move := by
  have wired := (Session.powerUp_eq_ok powered).1
  have wiredOpened : Session.Wired (before.moved opening).2 := (run.wired wired).moved opening
  have scanning := lasts.scanning wiredOpened
    (.opened run wired (.powerUp powered formed) untroubled opens scan)
  -- The ranking stays in a scan, so that of the opening is that of the end.
  have ranked : Ranking.WellFormed (before.moved opening).2.device.ranking :=
    scanning.holds ▸ scanning.ranked
  have wiredSession := lasts.wired wiredOpened
  refine ⟨fun peer => ?_, ranked.pairwise_among _,
    (scanning.step wiredSession continues).outcome scanning wiredSession⟩
  rw [Ranking.among, List.mem_filter, decide_eq_true_eq, ranked.mem_toList_iff, and_comm]

end Outcome

section Bench

open Simulation

def farPeer : PeerId := ⟨2, by decide⟩

def rankedBench : Session Platform :=
  .fresh (.ofList [nearPeer, farPeer]) (.new [nearPeer, farPeer] .empty)

/-- The session as it scans for both peers. -/
def scanningBench : Session Platform := (rankedBench.moved (.operation .start)).2

/-- A peer answers the scan and is sent away. -/
def answered (peer : PeerId) (session : Session Platform) : Session Platform :=
  ((session.moved (.operation (.event (.connected (some peer) ⟨7⟩)))).2.moved
    (.operation (.event .disconnected))).2

/-- The peers answer in the other order than they are ranked in. -/
theorem scan_leads_to_both_peers :
    (answered farPeer scanningBench).Ends (.operation (.event (.connected (some nearPeer) ⟨8⟩))) ∧
    OffersInTurn [nearPeer, farPeer] 0 ((answered farPeer scanningBench).moved
      (.operation (.event (.connected (some nearPeer) ⟨8⟩)))).2 := by
  have formed : (Ranking.ofList [nearPeer, farPeer]).WellFormed :=
    Ranking.wellFormed_ofList (by decide) (by decide)
  have powered : Session.powerUp _ _ 0 = .ok rankedBench := Session.powerUp_fresh _ _
  have untroubled : ∀ {session : Session Platform} {operation : Operation},
      (session.moved (.operation operation)).1 = .ok () →
      (session.moved (.operation operation)).2.device.fault = none →
      session.Untroubled (.operation operation) :=
    fun returned clear => ⟨by simp [returned], by simp [clear]⟩
  have continues : ∀ {session : Session Platform} {event : RadioEvent},
      (session.moved (.operation (.event event))).1 = .ok () →
      (session.moved (.operation (.event event))).2.device.fault = none →
      session.Continues (.operation (.event event)) :=
    fun returned clear => ⟨untroubled returned clear, trivial, nofun⟩
  have opens : rankedBench.Ends (.operation .start) := by
    unfold Session.Ends
    decide
  have lasts : ScanRun scanningBench _ (answered farPeer scanningBench) :=
    .move (.move .opened (continues rfl rfl) rfl) (continues rfl rfl) rfl
  have complete : (answered farPeer scanningBench).Continues
      (.operation (.event (.connected (some nearPeer) ⟨8⟩))) := continues rfl rfl
  have outcome : ScanOutcome _ [nearPeer, farPeer] (answered farPeer scanningBench)
      (.operation (.event (.connected (some nearPeer) ⟨8⟩))) :=
    (scan_leads_to_its_targets formed powered .start (untroubled rfl rfl) opens rfl lasts
      complete).2.2
  have ends := (outcome.detection (by decide)).2 (by decide)
  exact ⟨ends, outcome.somebody ends nofun (by decide)⟩

end Bench

end BondedMouse
