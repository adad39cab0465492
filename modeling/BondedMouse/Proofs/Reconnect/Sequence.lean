import BondedMouse.Reconnect.Sequence

/-! # Laws of the directed sequence

`Walks` describes a sequence that offers directed windows: it holds the targets of its
pass, one behind the other, and the place of the one whose turn it is.  Closing a scan
that detected somebody leads there; from there `turn` moves by one place, up to the end
of the pass.
-/

namespace BondedMouse.Sequence

/-! ## The end of a scan -/

theorem closeScan_nil {sequence : Sequence} (none_detected : sequence.targets = []) :
    sequence.closeScan =
      (none, { sequence with detected := Vector.ofFn fun _ => none, index := 0 }) := by
  simp [closeScan, none_detected]

theorem closeScan_cons {sequence : Sequence} {first : PeerId} {rest : List PeerId}
    (targets : sequence.targets = first :: rest) :
    sequence.closeScan = (some first, { sequence with
      detected := Vector.ofFn fun place => (first :: rest)[place]?
      index := 0
      phase := .connection }) := by
  simp [closeScan, targets]

/-- Closing a scan moves the targets to the front. -/
theorem closeScan_snd (sequence : Sequence) :
    ∃ phase, sequence.closeScan.2 = { sequence with
      phase, detected := Vector.ofFn fun place => sequence.targets[place]?, index := 0 } := by
  unfold closeScan
  cases sequence.targets <;> exact ⟨_, rfl⟩

/-- A turn moves by one place, and may count a pass. -/
theorem turn_snd (sequence : Sequence) :
    ∃ passes ≤ sequence.passes + 1,
      sequence.turn.2 = { sequence with index := sequence.index + 1, passes } := by
  unfold turn
  dsimp only
  split
  · exact ⟨sequence.passes, Nat.le_succ _, rfl⟩
  · exact ⟨sequence.passes + 1, Nat.le_refl _, rfl⟩

theorem target?_closeScan {sequence : Sequence} {peer : PeerId}
    (first : sequence.closeScan.1 = some peer) :
    sequence.closeScan.2.phase = .connection ∧ sequence.closeScan.2.target? = some peer := by
  cases targets : sequence.targets with
  | nil => simp [closeScan_nil targets] at first
  | cons head rest =>
    rw [closeScan_cons targets] at first ⊢
    exact ⟨rfl, by simpa [target?] using first⟩

/-- A turn to a peer makes it the current target. -/
theorem target?_turn {sequence : Sequence} {peer : PeerId} (phase : sequence.phase = .connection)
    (next : sequence.turn.1 = .next peer) :
    sequence.turn.2.phase = .connection ∧ sequence.turn.2.target? = some peer := by
  unfold turn at next ⊢
  dsimp only at next ⊢
  split at next
  · next target found =>
    cases next
    dsimp only
    split at found
    · exact ⟨phase, by rw [target?, phase]; exact found⟩
    · cases found
  · split at next <;> cases next

/-! ## Detected peers -/

theorem mem_targets_iff {sequence : Sequence} {peer : PeerId} :
    peer ∈ sequence.targets ↔ some peer ∈ sequence.detected.toList := by
  simp [targets]

theorem targets_restart (sequence : Sequence) : sequence.restart.targets = [] := by
  simp [restart, fresh, targets]

theorem mem_targets_note {sequence : Sequence} {rank : Nat} {noted peer : PeerId}
    (detected : peer ∈ (sequence.note rank noted).2.targets) :
    peer ∈ sequence.targets ∨ peer = noted := by
  rw [mem_targets_iff] at detected ⊢
  unfold note at detected
  split at detected
  · split at detected
    · exact .inl detected
    · rw [Vector.toList_set] at detected
      obtain earlier | same := List.mem_or_eq_of_mem_set detected
      · exact .inl earlier
      · exact .inr (Option.some.inj same)
  · exact .inl detected

theorem mem_targets_closeScan {sequence : Sequence} {peer : PeerId}
    (detected : peer ∈ sequence.closeScan.2.targets) : peer ∈ sequence.targets := by
  obtain ⟨phase, closed⟩ := sequence.closeScan_snd
  rw [mem_targets_iff, closed, Vector.mem_toList_iff, Vector.mem_ofFn] at detected
  obtain ⟨place, found⟩ := detected
  exact List.mem_of_getElem? found

theorem mem_targets_of_closeScan {sequence : Sequence} {peer : PeerId}
    (first : sequence.closeScan.1 = some peer) : peer ∈ sequence.targets := by
  cases targets : sequence.targets with
  | nil => simp [closeScan_nil targets] at first
  | cons head rest =>
    rw [closeScan_cons targets] at first
    cases first
    exact List.mem_cons_self

/-- A turn detects nobody. -/
theorem targets_turn (sequence : Sequence) : sequence.turn.2.targets = sequence.targets := by
  obtain ⟨passes, -, turned⟩ := sequence.turn_snd
  rw [turned]
  rfl

theorem mem_targets_of_turn {sequence : Sequence} {peer : PeerId}
    (next : sequence.turn.1 = .next peer) : peer ∈ sequence.targets := by
  unfold turn at next
  dsimp only at next
  split at next
  · next target found =>
    cases next
    split at found
    · have here := Vector.mem_of_getElem? (Option.join_eq_some_iff.1 found)
      exact mem_targets_iff.2 (Vector.mem_toList_iff.2 here)
    · cases found
  · split at next <;> cases next

/-- The count is that of the detected peers. -/
def Tallied (sequence : Sequence) : Prop :=
  sequence.count = sequence.targets.length

theorem tallied_restart (sequence : Sequence) : sequence.restart.Tallied := by
  rw [Tallied, targets_restart]
  rfl

theorem Tallied.note {sequence : Sequence} (tallied : sequence.Tallied) (rank : Nat)
    (peer : PeerId) : (sequence.note rank peer).2.Tallied := by
  unfold Sequence.note
  split
  · next small =>
    cases taken : sequence.detected[rank] with
    | some other => exact tallied
    | none =>
      -- A free rank is filled, so there is one peer more.
      simp only [Tallied, targets, List.length_filterMap_eq_countP, Vector.toList_set] at tallied ⊢
      rw [List.countP_set (by simpa using small), tallied]
      simp [taken]
  · exact tallied

theorem length_targets_le (sequence : Sequence) : sequence.targets.length ≤ capacity := by
  have filtered := List.length_filterMap_le id sequence.detected.toList
  rwa [Vector.length_toList] at filtered

/-! ## Walking along the targets -/

/-- The sequence offers windows to its targets and has come to the one at a place. -/
structure Walks (targets : List PeerId) (place : Nat) (sequence : Sequence) : Prop where
  phase : sequence.phase = .connection
  /-- The targets stand one behind the other. -/
  peer : ∀ place : Nat, (sequence.detected[place]?).join = targets[place]?
  count : sequence.count = targets.length
  index : sequence.index = place

theorem walks_closeScan {sequence : Sequence} {first : PeerId} {rest : List PeerId}
    (targets : sequence.targets = first :: rest)
    (count : sequence.count = sequence.targets.length) :
    Walks sequence.targets 0 sequence.closeScan.2 := by
  have room := sequence.length_targets_le
  rw [targets] at room count ⊢
  rw [closeScan_cons targets]
  refine ⟨rfl, fun place => ?_, count, rfl⟩
  by_cases small : place < capacity
  · simp [small]
  · have beyond : (first :: rest).length ≤ place := by omega
    rw [List.getElem?_eq_none beyond]
    simp [small]

namespace Walks

variable {targets : List PeerId} {place : Nat} {sequence : Sequence}

theorem target? (walks : Walks targets place sequence) : sequence.target? = targets[place]? := by
  rw [Sequence.target?, walks.phase, walks.index]
  exact walks.peer place

theorem filterMap_id_eq {slots : List (Option PeerId)}
    (places : ∀ place : Nat, (slots[place]?).join = targets[place]?) :
    slots.filterMap id = targets := by
  induction slots generalizing targets with
  | nil =>
    apply List.ext_getElem?
    simpa using places
  | cons slot slots ih =>
    have here := places 0
    have behind := fun place => places (place + 1)
    simp only [List.getElem?_cons_succ] at behind
    cases targets with
    | nil =>
      -- Behind a free slot there are only free ones.
      obtain rfl : slot = none := by simpa using here
      have nobody : slots.filterMap id = [] := ih (by simpa using behind)
      simpa using nobody
    | cons target targets =>
      obtain rfl : slot = some target := by simpa using here
      simpa using ih behind

/-- The targets of the walk are those that the sequence holds. -/
theorem targets_eq (walks : Walks targets place sequence) : sequence.targets = targets := by
  apply filterMap_id_eq
  intro place
  rw [Vector.getElem?_toList]
  exact walks.peer place

theorem turn_next {peer : PeerId} (walks : Walks targets place sequence)
    (next : targets[place + 1]? = some peer) :
    sequence.turn = (.next peer, { sequence with index := place + 1 }) := by
  have inside : place + 1 < sequence.count := by
    rw [walks.count]
    exact (List.getElem?_eq_some_iff.1 next).1
  simp [turn, walks.index, inside, walks.peer, next]

/-- Behind the last target the pass is over. -/
theorem turn_last (walks : Walks targets place sequence) (last : targets[place + 1]? = none) :
    sequence.turn =
      (if sequence.passes + 1 ≥ maxPasses then .giveUp else .scanAgain,
        { sequence with index := place + 1, passes := sequence.passes + 1 }) := by
  simp [turn, walks.index, walks.peer, last]

theorem advance (walks : Walks targets place sequence) :
    Walks targets (place + 1) { sequence with index := place + 1 } :=
  ⟨walks.phase, walks.peer, walks.count, rfl⟩

end Walks

/-! ## The count behind a scan -/

theorem Tallied.closeScan {sequence : Sequence} (tallied : sequence.Tallied) :
    sequence.closeScan.2.Tallied := by
  cases targets : sequence.targets with
  | nil =>
    have bare : sequence.closeScan.2.targets = [] := by
      refine List.eq_nil_iff_forall_not_mem.2 fun peer detected => ?_
      have before := mem_targets_closeScan detected
      rw [targets] at before
      cases before
    rw [Tallied, bare, closeScan_nil targets, show sequence.count = _ from tallied, targets]
  | cons first rest =>
    have walks := walks_closeScan targets tallied
    rw [Tallied, walks.targets_eq, walks.count]

theorem Tallied.turn {sequence : Sequence} (tallied : sequence.Tallied) :
    sequence.turn.2.Tallied := by
  obtain ⟨passes, -, turned⟩ := sequence.turn_snd
  rw [Tallied, targets_turn, turned]
  exact tallied

end BondedMouse.Sequence
