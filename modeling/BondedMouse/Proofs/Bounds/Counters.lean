import BondedMouse.Proofs.Bounds.Controller
import BondedMouse.Proofs.Session.Erasure
import BondedMouse.Proofs.Session.Passes

/-! # The counters along a session

Between two moves each counter is below its limit.  The ranks of a ranking are the only
places that a scan notes peers at, so there are never more of them than ranks; the index
is stepped only while it is on one of them; the passes and the tries end where they are
given up.  None of this depends on what the stack and the store answer.
-/

namespace BondedMouse

/-! ## Sequences -/

namespace Sequence

/-- The counters of a sequence are within their limits, and its peers stand where ranks are. -/
structure Fits (sequence : Sequence) : Prop where
  tallied : sequence.Tallied
  ranked : ∀ place peer, sequence.detected[place]? = some (some peer) → place < Ranking.capacity
  index : sequence.index ≤ sequence.count
  passes : sequence.passes ≤ maxPasses

namespace Fits

variable {sequence : Sequence}

theorem count_le (fits : sequence.Fits) : sequence.count ≤ Ranking.capacity := by
  have behind : (sequence.detected.toList.drop Ranking.capacity).filterMap id = [] := by
    rw [List.filterMap_eq_nil_iff]
    intro slot member
    obtain ⟨place, found⟩ := List.mem_iff_getElem?.1 member
    rw [List.getElem?_drop, Vector.getElem?_toList] at found
    cases slot with
    | none => rfl
    | some peer => exact absurd (fits.ranked _ peer found) (Nat.not_lt.2 (Nat.le_add_right _ _))
  have parts := List.take_append_drop Ranking.capacity sequence.detected.toList
  rw [show sequence.count = _ from fits.tallied, targets, ← parts, List.filterMap_append, behind,
    List.append_nil]
  exact Nat.le_trans (List.length_filterMap_le _ _) (List.length_take_le _ _)

theorem restart (passes : sequence.passes ≤ maxPasses) : sequence.restart.Fits where
  tallied := tallied_restart sequence
  ranked := by
    intro place peer found
    simp [Sequence.restart, fresh, Vector.getElem?_replicate] at found
  index := Nat.le_refl 0
  passes := passes

theorem fresh : Sequence.fresh.Fits :=
  @restart .fresh (Nat.zero_le _)

theorem note (fits : sequence.Fits) {rank : Nat} (ranked : rank < Ranking.capacity)
    (peer : PeerId) : (sequence.note rank peer).2.Fits := by
  have tallied := fits.tallied.note rank peer
  unfold Sequence.note at tallied ⊢
  split
  · next small =>
    split
    · exact fits
    · next free =>
      rw [dif_pos small, free] at tallied
      refine ⟨tallied, fun place other found => ?_, Nat.le_succ_of_le fits.index, fits.passes⟩
      rw [Vector.getElem?_set] at found
      split at found
      · next here => exact here ▸ ranked
      · exact fits.ranked place other found
  · exact fits

/-- The targets move to the front, where they take no more places than there are ranks. -/
theorem closeScan (fits : sequence.Fits) : sequence.closeScan.2.Fits := by
  have few := fits.count_le
  have tallied := fits.tallied.closeScan
  rw [show sequence.count = _ from fits.tallied] at few
  obtain ⟨phase, closed⟩ := sequence.closeScan_snd
  rw [closed] at tallied ⊢
  refine ⟨tallied, fun place peer found => ?_, Nat.zero_le _, fits.passes⟩
  obtain ⟨inside, target⟩ := Vector.getElem?_eq_some_iff.1 found
  rw [Vector.getElem_ofFn] at target
  exact Nat.lt_of_lt_of_le (List.getElem?_eq_some_iff.1 target).1 few

theorem turn (fits : sequence.Fits) (inside : sequence.index < sequence.count)
    (few : sequence.passes < maxPasses) : sequence.turn.2.Fits := by
  have tallied := fits.tallied.turn
  obtain ⟨passes, more, turned⟩ := turn_snd sequence
  rw [turned] at tallied ⊢
  exact ⟨tallied, fits.ranked, inside, Nat.le_trans more few⟩

end Fits

end Sequence

/-! ## Windows -/

section Windows

variable {ε : Type} [RadioStack ε] {device after : Device ε}

namespace Device

theorem fits_forScan (fits : device.sequence.Fits) : device.forScan.sequence.Fits := by
  unfold forScan
  dsimp only
  split
  · exact fits
  · exact .restart fits.passes

theorem fits_forAnyBonded (fits : device.sequence.Fits) : device.forAnyBonded.sequence.Fits := by
  unfold forAnyBonded
  dsimp only
  split <;> exact fits

theorem fits_forTargets (fits : device.sequence.Fits) : device.forTargets.sequence.Fits := by
  have closed := fits.closeScan
  unfold forTargets
  dsimp only
  split
  · exact closed
  · exact fits_forScan closed

theorem fits_forNext (fits : device.sequence.Fits)
    (inside : device.sequence.index < device.sequence.count)
    (few : device.sequence.passes < Sequence.maxPasses) : device.forNext.sequence.Fits := by
  have turned := fits.turn inside few
  unfold forNext
  dsimp only
  split
  · exact turned
  · exact fits_forScan turned
  · exact fits_forAnyBonded turned

theorem fits_forSequence (device : Device ε) : device.forSequence.sequence.Fits :=
  @fits_forScan ε _ { device with sequence := .fresh } .fresh

omit [RadioStack ε] in
theorem fits_noted (fits : device.sequence.Fits) (peer : PeerId) :
    (device.noted peer).sequence.Fits := by
  unfold noted
  cases ranked : device.ranking.rankOf? peer with
  | none => exact fits
  | some rank => exact fits.note (Ranking.rankOf?_lt ranked) peer

/-! A window that is described comes with a whitelist that the stack takes. -/

theorem roomy_forScan (device : Device ε) :
    device.forScan.whitelist.length ≤ Registry.whitelistMax := by
  unfold forScan
  dsimp only
  split
  · exact Nat.zero_le _
  · exact Guarded.length_whitelist_le device.env

theorem roomy_forAnyBonded (device : Device ε) :
    device.forAnyBonded.whitelist.length ≤ Registry.whitelistMax := by
  unfold forAnyBonded
  dsimp only
  split
  · exact Nat.zero_le _
  · exact Guarded.length_whitelist_le device.env

theorem roomy_forTargets (device : Device ε) :
    device.forTargets.whitelist.length ≤ Registry.whitelistMax := by
  unfold forTargets
  dsimp only
  split
  · exact Nat.succ_le_succ (Nat.zero_le _)
  · exact roomy_forScan _

theorem roomy_forNext (device : Device ε) :
    device.forNext.whitelist.length ≤ Registry.whitelistMax := by
  unfold forNext
  dsimp only
  split
  · exact Nat.succ_le_succ (Nat.zero_le _)
  · exact roomy_forScan _
  · exact roomy_forAnyBonded _

end Device

theorem Course.fits {clean : Prop} (course : Course device clean after)
    (fits : device.sequence.Fits) : after.sequence.Fits := by
  cases course with
  | stays same wish =>
    rw [same.sequence]
    exact fits
  | noted scans peer same wish =>
    rw [same.sequence]
    exact Device.fits_noted fits peer
  | opened follows same wish =>
    rw [same.sequence]
    cases follows with
    | rest | pairing => exact fits
    | targets scans before =>
      apply Device.fits_forTargets
      rw [before.sequence]
      exact fits
    | completed scans peer before =>
      apply Device.fits_forTargets
      rw [before.sequence]
      exact Device.fits_noted fits peer

end Windows

/-! ## Moves -/

namespace Session

variable {ε : Type} [RadioStack ε] [RecordStore ε] {session : Session ε} {move : Move ε}

theorem moved_fits (wired : session.Wired) (regular : move.Regular)
    (inPace : InPace session.device) (fits : session.device.sequence.Fits) :
    (session.moved move).2.device.sequence.Fits := by
  cases moved_goes wired regular with
  | on course => exact course.fits fits
  | @clocked before timers rung timed course ends =>
    have waiting : ({ session.device with timers := before } : Device ε).sequence.Fits := fits
    rw [ends]
    exact course.fits waiting
  | turned expires mode phase same wish =>
    obtain ⟨-, inside, few⟩ := inPace.directed mode
    rw [← show session.device.sequence.count = _ from fits.tallied] at inside
    rw [same.sequence]
    exact Device.fits_forNext fits inside few
  | restarted resets restarts =>
    obtain ⟨-, opened, -⟩ := restarts
    rw [opened.sequence]
    exact Device.fits_forSequence _
  | released request up same closing =>
    rw [same.sequence]
    exact fits

/-! ### Tries -/

theorem fewTries_maintained :
    Maintained fun device : Device ε => device.saveTries < storageTries where
  spares few spares := spares.saveTries ▸ few
  flushed := by
    intro device few
    have flushes := Controller.saveRanking_flushes device
    generalize Controller.saveRanking device = result at flushes
    cases flushes with
    | clean saved => exact few
    | written unsaved done => exact Nat.zero_lt_succ _
    | waits unsaved busy fewer => exact fewer
    | givenUp unsaved failed spent => exact Nat.zero_lt_succ _
  restored few := few
  pruned few := few
  inserted _ few := few
  emptied few := few

theorem moved_fewTries (wired : session.Wired) (move : Move ε)
    (few : session.device.saveTries < storageTries) :
    (session.moved move).2.device.saveTries < storageTries :=
  fewTries_maintained.moved (fun _ few => few) wired few move

/-! ### The whitelist -/

theorem roomy_upheld : Upheld (fun _ => True)
    fun device : Device ε => device.whitelist.length ≤ Registry.whitelistMax where
  same roomy same := same.whitelist ▸ roomy
  opens := by
    intro middle described roomy opens
    cases opens with
    | rest => exact roomy
    | pairing => exact Nat.zero_le _
    | targets => exact Device.roomy_forTargets _
    | next phase => exact Device.roomy_forNext _
    | sequence => exact Device.roomy_forScan _
  struck _ roomy := Nat.le_trans List.length_erase_le roomy
  noted _ roomy := roomy
  inserted _ roomy := roomy

theorem moved_roomy (wired : session.Wired) (regular : move.Regular)
    (roomy : session.device.whitelist.length ≤ Registry.whitelistMax) :
    (session.moved move).2.device.whitelist.length ≤ Registry.whitelistMax := by
  have upheld := @roomy_upheld ε _ _
  have performed {operation : Operation} (plain : operation.Plain) :
      (session.perform operation).2.device.whitelist.length ≤ Registry.whitelistMax :=
    upheld.performed wired plain (fun _ _ _ _ => trivial) roomy
  cases move with
  | outside env => exact roomy
  | operation operation =>
    cases operation with
    | setMode mode target => exact regular.elim
    | start =>
      rw [Session.moved, Session.perform, Session.control_device, Controller.start_apply]
      have pruned : session.device.restored.pruned.whitelist.length ≤ Registry.whitelistMax := roomy
      exact Controller.final_bind (fun device => device.whitelist.length ≤ Registry.whitelistMax)
        (upheld.opened .sequence pruned) fun _ => upheld.saved
    | tick =>
      rw [Session.moved, Session.perform, Session.control_device, (tick_sameWindow _).whitelist]
      exact roomy
    | request request =>
      cases request with
      | eraseBonds => exact roomy
      | moveCursor | pairingWindow | disconnect => exact performed trivial
    | startSequence | event | scanTimeout | timerTick | timerStep => exact performed trivial

end Session

end BondedMouse
