import BondedMouse.Proofs.Controller.Events
import BondedMouse.Proofs.Ranking.Order

/-! # What an operation does to the ranking and its save

Only four things touch the ranking, the state of its save or its record: a bond, the
erasure of the bonds, the start, and an attempt to save.  Every other operation spares
them, whatever the stack answers: it makes requests to the radio stack and changes other
parts of the device.  A report of a full store is passed back to the store, and that is
all.
-/

namespace BondedMouse

variable {ε : Type}

section Spares

variable [RadioStack ε]

/-- Calls of which none goes to the record store. -/
inductive SparesRecords (env : ε) : ε → Prop
  | none : SparesRecords env env
  | request {last : ε} (spares : SparesRecords env last) (request : RadioRequest) :
      SparesRecords env (RadioStack.request request last).2

theorem SparesRecords.trans {env middle last : ε} (first : SparesRecords env middle)
    (rest : SparesRecords middle last) : SparesRecords env last := by
  induction rest with
  | none => exact first
  | request _ request ih => exact ih.request request

theorem Answers.sparesRecords {requests : List RadioRequest} {env last : ε}
    (answers : Answers requests env last) : SparesRecords env last := by
  induction answers with
  | done => exact .none
  | next answered _ ih => exact (SparesRecords.none.request _).trans ih

theorem Refuses.sparesRecords {requests : List RadioRequest} {error : StackError} {env last : ε}
    (refuses : Refuses requests error env last) : SparesRecords env last := by
  induction refuses with
  | here refused => exact SparesRecords.none.request _
  | later answered _ ih => exact (SparesRecords.none.request _).trans ih

/-- The ranking and the state of its save are the same on both devices, and the record store was
not called in between. -/
structure Spares (device after : Device ε) : Prop where
  ranking : after.ranking = device.ranking
  unsaved : after.unsaved = device.unsaved
  saveTries : after.saveTries = device.saveTries
  records : SparesRecords device.env after.env

namespace Spares

variable {device middle described last : Device ε}

theorem refl (device : Device ε) : Spares device device := ⟨rfl, rfl, rfl, .none⟩

theorem trans (first : Spares device middle) (rest : Spares middle last) : Spares device last :=
  ⟨rest.ranking.trans first.ranking, rest.unsaved.trans first.unsaved,
    rest.saveTries.trans first.saveTries, first.records.trans rest.records⟩

theorem describes (spares : Spares device middle) (describes : Describes middle described) :
    Spares device described := by
  cases describes
  exact { spares with }

end Spares

theorem Asks.spares {requests : List RadioRequest} {device target : Device ε}
    {result : EStateM.Result Fault (Device ε) Unit} (asks : Asks requests device target result)
    (spares : Spares device { target with env := device.env }) :
    Spares device (Controller.final result) := by
  cases asks with
  | answered answers => exact { spares with records := answers.sparesRecords }
  | refused refuses => exact { spares with records := refuses.sparesRecords }

open Controller

theorem putInForce_spares (device : Device ε) : Spares device (final (putInForce device)) :=
  (putInForce_asks device).spares { Spares.refl device with }

variable {device : Device ε} {result : EStateM.Result Fault (Device ε) Unit}

/-- A window that is described and put into force. -/
theorem Describes.spares {middle described : Device ε} (describes : Describes middle described)
    (spares : Spares device middle) : Spares device (final (putInForce described)) :=
  (spares.describes describes).trans (putInForce_spares described)

theorem Closes.spares (closes : Closes device result) : Spares device (final result) := by
  cases closes with
  | refused refuses => exact { Spares.refl device with records := refuses.sparesRecords }
  | turned answers =>
    exact (Describes.targets _).spares
      { Spares.refl device with records := answers.sparesRecords }

theorem Detects.spares {peer : PeerId} (detects : Detects device peer result) :
    Spares device (final result) := by
  cases detects with
  | refused refuses => exact { Spares.refl device with records := refuses.sparesRecords }
  | noted answers more => exact { Spares.refl device with records := answers.sparesRecords }
  | complete answers all =>
    exact (Describes.targets _).spares
      { Spares.refl device with records := answers.sparesRecords }

theorem dropLink_spares (device : Device ε) : Spares device (final (dropLink device)) :=
  (dropLink_asks device).spares { Spares.refl device with }

theorem Receives.spares {peer : Option PeerId} (receives : Receives device peer result) :
    Spares device (final result) := by
  cases receives with
  | ignored idle => exact .refl device
  | paired mode => exact { Spares.refl device with }
  | kept meant => exact { Spares.refl device with }
  | dropped advertises stranger => exact dropLink_spares device
  | detected scans detects => exact detects.spares

theorem Expires.spares (expires : Expires device result) : Spares device (final result) := by
  have stopped : Spares device device.stopped := { Spares.refl device with }
  cases expires with
  | ignored undirected closed => exact stopped
  | rested mode => exact { Spares.refl device with }
  | scanned mode phase => exact (Describes.targets _).spares stopped
  | offered mode phase => exact (Describes.next _).spares stopped

theorem onConnected_spares (peer : Option PeerId) (handle : LinkHandle) (device : Device ε) :
    Spares device (final (onConnected peer handle device)) := by
  by_cases down : device.link = .down
  · have linked : Spares device (device.linked peer handle) := { Spares.refl device with }
    exact linked.trans (onConnected_down peer handle down).spares
  · rw [onConnected_linked peer handle down]
    exact .refl device

theorem onDisconnected_spares (device : Device ε) :
    Spares device (final (onDisconnected device)) := by
  have freed : Spares device device.unlinked := { Spares.refl device with }
  rw [onDisconnected_apply]
  split
  · exact .refl device
  · exact freed
  · split
    · exact (Describes.pairing _).spares freed
    · exact (Describes.sequence _).spares freed

theorem onTimedOut_spares (window : Window) (device : Device ε) :
    Spares device (final (onTimedOut window device)) := by
  by_cases present : window = device.window
  · subst present
    exact (onTimedOut_expires device).spares
  · rw [onTimedOut_stale present]
    exact .refl device

theorem startSequence_spares (device : Device ε) :
    Spares device (final (startSequence device)) := by
  rw [startSequence_apply]
  exact (Describes.sequence device).spares (.refl device)

theorem setMode_spares (mode : Mode) (target : Option PeerId) (device : Device ε) :
    Spares device (final (setMode mode target device)) := by
  by_cases idle : mode = .idle
  · subst idle
    have rested : Spares device device.forRest := { Spares.refl device with }
    exact rested.trans ((silence_asks device.forRest).spares { Spares.refl device.forRest with })
  · obtain ⟨described, describes, opens⟩ := setMode_opens target device idle
    rw [opens]
    exact describes.spares (.refl device)

theorem onRequest_spares (request : Request) (device : Device ε) :
    Spares device (final (onRequest request device)) := by
  cases request with
  | moveCursor movement =>
    rw [onRequest_moveCursor]
    split
    · exact (ask_asks _ device).spares (.refl device)
    · exact .refl device
    · exact .refl device
  | pairingWindow => exact (Describes.pairing device).spares (.refl device)
  | eraseBonds => exact { Spares.refl device with }
  | disconnect => exact dropLink_spares device

theorem reconcile_spares (device : Device ε) : Spares device (final (reconcile device)) :=
  (reconcile_asks device).spares { Spares.refl device with }

theorem Rings.spares {last : Device ε} (rings : Rings device last) : Spares device last := by
  cases rings with
  | ignored quiet => exact .refl device
  | closed mode phase closes ok =>
    have spares := closes.spares
    rw [ok] at spares
    exact spares
  | failed mode phase closes error =>
    have spares := closes.spares
    rw [error] at spares
    exact { spares with }

end Spares

/-! ## Attempts to save -/

section Flushes

variable [RecordStore ε]

/-- How an attempt to save the ranking ends, with what the store answered. -/
inductive Flushes (device : Device ε) : EStateM.Result Fault (Device ε) Unit → Prop
  | clean (saved : device.unsaved = false) : Flushes device (.ok () device)
  | written (unsaved : device.unsaved = true)
      (done : (device.ranking.persist device.env).1 = .ok ()) :
      Flushes device (.ok () { device with
        env := (device.ranking.persist device.env).2, unsaved := false, saveTries := 0 })
  | waits (unsaved : device.unsaved = true)
      (busy : (device.ranking.persist device.env).1 = .error .busy)
      (few : device.saveTries + 1 < storageTries) :
      Flushes device (.ok () { device with
        env := (device.ranking.persist device.env).2, saveTries := device.saveTries + 1 })
  | givenUp {error : StorageError} (unsaved : device.unsaved = true)
      (failed : (device.ranking.persist device.env).1 = .error error)
      (spent : error = .busy → storageTries ≤ device.saveTries + 1) :
      Flushes device (.error (.storage error) { device with
        env := (device.ranking.persist device.env).2, unsaved := false, saveTries := 0 })

theorem Controller.saveRanking_flushes (device : Device ε) :
    Flushes device (saveRanking device) := by
  unfold saveRanking
  cases unsaved : device.unsaved with
  | false => exact .clean unsaved
  | true =>
    cases answer : (device.ranking.persist device.env).1 with
    | ok => simpa [answer] using Flushes.written unsaved answer
    | error error =>
      by_cases again : error = .busy ∧ device.saveTries + 1 < storageTries
      · obtain ⟨rfl, few⟩ := again
        simpa [unsaved, answer, few] using Flushes.waits unsaved answer few
      · have spent : error = .busy → storageTries ≤ device.saveTries + 1 := by
          intro busy
          simpa [busy] using again
        simpa [answer, again] using Flushes.givenUp unsaved answer spent

theorem Controller.ranking_saveRanking (device : Device ε) :
    (final (saveRanking device)).ranking = device.ranking := by
  have flushes := saveRanking_flushes device
  generalize saveRanking device = result at flushes
  cases flushes <;> rfl

end Flushes

/-! ## The start -/

/-- A start that drops nobody leaves the ranking as it was; any other has it saved again. -/
theorem Device.pruned_eq_or [RadioStack ε] {device : Device ε} (formed : device.ranking.WellFormed) :
    device.pruned = device ∨ device.pruned.unsaved = true := by
  by_cases dropped : (device.ranking.retain (Registry.enumerates device.env)).1 = 0
  · have all := (formed.dropped_eq_zero_iff _).1 dropped
    left
    simp [pruned, dropped, formed.retain_of_all all]
  · right
    simp [pruned, Nat.pos_iff_ne_zero.2 dropped]

theorem Controller.ranking_start [RadioStack ε] [RecordStore ε] (device : Device ε) :
    (final (start device)).ranking = device.restored.pruned.ranking := by
  have described := (Describes.sequence device.restored.pruned).spares (.refl _)
  rw [start_apply]
  exact final_bind (fun last => last.ranking = device.restored.pruned.ranking) described.ranking
    fun opened same => (ranking_saveRanking opened).trans same

/-! ## Properties that operations keep -/

section Maintained

variable [RadioStack ε] [RecordStore ε]

/-- A property that is kept by whatever spares the ranking, and by each of the ways to touch it. -/
structure Maintained (holds : Device ε → Prop) : Prop where
  spares : ∀ {device after}, holds device → Spares device after → holds after
  flushed : ∀ {device}, holds device → holds (Controller.final (Controller.saveRanking device))
  restored : ∀ {device}, holds device → holds device.restored
  pruned : ∀ {device}, holds device → holds device.pruned
  inserted : ∀ {device} (peer : PeerId), holds device →
    holds { device with ranking := (device.ranking.insert peer).2, unsaved := true }
  emptied : ∀ {device}, holds device → holds { device with ranking := .empty, unsaved := true }

namespace Maintained

open Controller

variable {holds : Device ε → Prop} {device : Device ε}

theorem bonded (maintained : Maintained holds) (peer : PeerId) (held : holds device) :
    holds (final (onBonded peer device)) := by
  rw [onBonded_apply]
  split
  · dsimp only
    split
    · exact maintained.flushed
        (maintained.spares (maintained.inserted peer held) { Spares.refl _ with })
    · next unchanged =>
      rw [Ranking.insert_of_unchanged (Bool.eq_false_iff.2 unchanged)]
      exact maintained.spares held { Spares.refl device with }
  · exact held
  · exact held

/-- A report of a full store is not among them, since it calls the store. -/
theorem event (maintained : Maintained holds) {event : RadioEvent} (other : event ≠ .storageFull)
    (held : holds device) : holds (final (onEvent event device)) := by
  cases event with
  | connected peer handle => exact maintained.spares held (onConnected_spares peer handle device)
  | disconnected => exact maintained.spares held (onDisconnected_spares device)
  | bonded peer => exact maintained.bonded peer held
  | timedOut window => exact maintained.spares held (onTimedOut_spares window device)
  | storageFull => exact absurd rfl other
  | bondsErased => exact maintained.spares held (startSequence_spares device)

theorem erased (maintained : Maintained holds) (held : holds device) :
    holds (final (eraseWhenDown device)) := by
  have erases := eraseWhenDown_erases device
  generalize eraseWhenDown device = result at erases
  cases erases with
  | spared keeps => exact held
  | refused pending down refuses =>
    exact maintained.spares held { Spares.refl device with records := refuses.sparesRecords }
  | erased pending down answers =>
    exact maintained.spares (maintained.emptied held)
      { Spares.refl _ with records := answers.sparesRecords }

theorem tick (maintained : Maintained holds) (held : holds device) :
    holds (final (tick device)) := by
  cases recorded : device.fault with
  | some fault =>
    rw [tick_fault recorded]
    exact maintained.spares held { Spares.refl device with }
  | none =>
    rw [tick_apply recorded]
    exact final_bind holds (maintained.spares held (reconcile_spares device)) fun reconciled held =>
      final_bind holds (maintained.erased held) fun erased held => maintained.flushed held

/-- What holds of the ranking that is taken from the store. -/
theorem started (maintained : Maintained holds) (held : holds device.restored) :
    holds (final (start device)) := by
  have described := (Describes.sequence device.restored.pruned).spares (.refl _)
  rw [start_apply]
  exact final_bind holds (maintained.spares (maintained.pruned held) described)
    fun opened held => maintained.flushed held

theorem start (maintained : Maintained holds) (held : holds device) :
    holds (final (start device)) :=
  maintained.started (maintained.restored held)

end Maintained

/-- The operations on a device touch its ranking by the operations on rankings only. -/
theorem Ranking.Closed.maintained {kept : Ranking → Prop} (closed : Closed kept) :
    Maintained fun device : Device ε => kept device.ranking where
  spares held spares := spares.ranking ▸ held
  flushed held := by
    rw [Controller.ranking_saveRanking]
    exact held
  restored {device} held := closed.restore held device.env
  pruned held := closed.retain _ held
  inserted peer held := closed.insert peer held
  emptied _ := closed.empty

end Maintained

end BondedMouse
