import BondedMouse.Proofs.Reconnect.Sequence
import Mathlib.Data.Finset.Card
import Mathlib.Data.Finset.Range
import Mathlib.Logic.Function.Iterate

/-! # What a pass visits

A scan may note peers at any ranks, with gaps, again and beyond the last one.  Of all that
is noted at a rank the first peer is kept, and the pass visits the kept peers in the order
of their ranks: the end of the scan yields the first, each turn the next one, and the turn
behind the last one ends the pass.
-/

namespace BondedMouse.Sequence

/-- Notes some peers at their ranks, one after the other. -/
def noteAll (sequence : Sequence) (calls : List (Nat × PeerId)) : Sequence :=
  calls.foldl (fun sequence call => (sequence.note call.1 call.2).2) sequence

/-- The peer that was first noted at a rank. -/
def firstAt (calls : List (Nat × PeerId)) (rank : Nat) : Option PeerId :=
  (calls.find? (·.1 == rank)).map Prod.snd

/-- The first peers of the ranks in range, in the order of the ranks. -/
def kept (calls : List (Nat × PeerId)) : List PeerId :=
  (List.range capacity).filterMap (firstAt calls)

/-- What comes of some turns. -/
def turned (sequence : Sequence) (count : Nat) : Sequence :=
  (fun sequence : Sequence => sequence.turn.2)^[count] sequence

theorem turned_succ (sequence : Sequence) (count : Nat) :
    sequence.turned (count + 1) = (sequence.turned count).turn.2 :=
  Function.iterate_succ_apply' _ count sequence

variable {sequence : Sequence} {calls : List (Nat × PeerId)} {rank : Nat}

/-! ## Peers by rank -/

theorem firstAt_cons (call : Nat × PeerId) (calls : List (Nat × PeerId)) (rank : Nat) :
    firstAt (call :: calls) rank = if call.1 = rank then some call.2 else firstAt calls rank := by
  by_cases same : call.1 = rank
  · simp [firstAt, same]
  · simp [firstAt, same]

theorem firstAt_eq_none_iff : firstAt calls rank = none ↔ rank ∉ calls.map Prod.fst := by
  rw [firstAt, Option.map_eq_none_iff, List.find?_eq_none, List.mem_map]
  constructor
  · rintro nobody ⟨call, member, same⟩
    exact nobody call member (beq_iff_eq.2 same)
  · intro new call member same
    exact new ⟨call, member, beq_iff_eq.1 same⟩

theorem note_answer_iff {peer : PeerId} :
    (sequence.note rank peer).1 = true ↔
      ∃ inside : rank < capacity, sequence.detected[rank] = none := by
  unfold note
  split
  · next inside =>
    cases taken : sequence.detected[rank] with
    | some other => simp [taken]
    | none => simp [taken, inside]
  · next beyond => simp [beyond]

/-- A note fills its rank if nobody is there, and leaves all other ranks. -/
theorem detected_note (sequence : Sequence) (rank : Nat) (peer : PeerId) (place : Fin capacity) :
    (sequence.note rank peer).2.detected[place] =
      sequence.detected[place].or (if rank = place then some peer else none) := by
  by_cases same : rank = place
  · subst same
    cases taken : sequence.detected[place.val] with
    | some other => simp [note, taken]
    | none => simp [note, taken]
  · rw [if_neg same, Option.or_none]
    by_cases inside : rank < capacity
    · cases taken : sequence.detected[rank] with
      | some other => simp [note, inside, taken]
      | none => simp [note, inside, taken, Vector.getElem_set_ne _ _ same]
    · simp [note, inside]

theorem detected_noteAll (sequence : Sequence) (calls : List (Nat × PeerId))
    (place : Fin capacity) :
    (sequence.noteAll calls).detected[place] =
      sequence.detected[place].or (firstAt calls place) := by
  induction calls generalizing sequence with
  | nil => exact (Option.or_none).symm
  | cons call calls ih =>
    have rest : (sequence.noteAll (call :: calls)).detected[place] =
        ((sequence.note call.1 call.2).2.noteAll calls).detected[place] := rfl
    rw [rest, ih, detected_note, firstAt_cons, Option.or_assoc]
    split <;> rfl

/-- A note changes neither the phase nor the passes. -/
theorem note_spares (sequence : Sequence) (rank : Nat) (peer : PeerId) :
    (sequence.note rank peer).2.phase = sequence.phase ∧
      (sequence.note rank peer).2.passes = sequence.passes := by
  unfold note
  split
  · split <;> exact ⟨rfl, rfl⟩
  · exact ⟨rfl, rfl⟩

theorem noteAll_spares (sequence : Sequence) (calls : List (Nat × PeerId)) :
    (sequence.noteAll calls).phase = sequence.phase ∧
      (sequence.noteAll calls).passes = sequence.passes := by
  induction calls generalizing sequence with
  | nil => exact ⟨rfl, rfl⟩
  | cons call calls ih =>
    obtain ⟨phase, passes⟩ := sequence.note_spares call.1 call.2
    obtain ⟨same, still⟩ := ih (sequence.note call.1 call.2).2
    exact ⟨same.trans phase, still.trans passes⟩

theorem Tallied.noteAll (tallied : sequence.Tallied) (calls : List (Nat × PeerId)) :
    (sequence.noteAll calls).Tallied := by
  induction calls generalizing sequence with
  | nil => exact tallied
  | cons call calls ih => exact ih (tallied.note call.1 call.2)

/-! ## A scan -/

theorem detected_scan (sequence : Sequence) (calls : List (Nat × PeerId)) (place : Fin capacity) :
    (sequence.restart.noteAll calls).detected[place] = firstAt calls place := by
  rw [detected_noteAll]
  simp [restart, fresh]

theorem targets_scan (sequence : Sequence) (calls : List (Nat × PeerId)) :
    (sequence.restart.noteAll calls).targets = kept calls := by
  have slots : (sequence.restart.noteAll calls).detected.toList =
      (List.range capacity).map (firstAt calls) := by
    apply List.ext_getElem
    · simp
    · intro place inside _
      rw [Vector.length_toList] at inside
      simpa using sequence.detected_scan calls ⟨place, inside⟩
  rw [targets, slots, List.filterMap_map]
  rfl

theorem tallied_scan (sequence : Sequence) (calls : List (Nat × PeerId)) :
    (sequence.restart.noteAll calls).count = (kept calls).length := by
  rw [← sequence.targets_scan calls]
  exact (tallied_restart sequence).noteAll calls

/-- During a scan a note is taken if its rank is in range and nobody was noted there. -/
theorem note_answer_scan {peer : PeerId} :
    ((sequence.restart.noteAll calls).note rank peer).1 = true ↔
      rank < capacity ∧ rank ∉ calls.map Prod.fst := by
  rw [note_answer_iff, ← firstAt_eq_none_iff]
  constructor
  · rintro ⟨inside, free⟩
    exact ⟨inside, (sequence.detected_scan calls ⟨rank, inside⟩).symm.trans free⟩
  · rintro ⟨inside, new⟩
    exact ⟨inside, (sequence.detected_scan calls ⟨rank, inside⟩).trans new⟩

/-- As many peers are kept as there are ranks in range at which somebody was noted. -/
theorem length_kept (calls : List (Nat × PeerId)) :
    (kept calls).length = ((calls.map Prod.fst).toFinset.filter (· < capacity)).card := by
  rw [kept, List.length_filterMap_eq_countP, List.countP_eq_length_filter,
    ← List.toFinset_card_of_nodup (List.nodup_range.filter _)]
  congr 1
  ext rank
  simp only [List.mem_toFinset, List.mem_filter, List.mem_range, Finset.mem_filter,
    Option.isSome_iff_ne_none, ne_eq, firstAt_eq_none_iff, Decidable.not_not]
  exact and_comm

/-! ## The walk behind the scan -/

/-- The turns within a pass come to one target after the other, and the passes stay. -/
theorem Walks.turned {targets : List PeerId} (walks : Walks targets 0 sequence) {place : Nat}
    (inside : place < targets.length) :
    Walks targets place (sequence.turned place) ∧
      (sequence.turned place).passes = sequence.passes := by
  induction place with
  | zero => exact ⟨walks, rfl⟩
  | succ place ih =>
    obtain ⟨here, passes⟩ := ih (by omega)
    rw [turned_succ, here.turn_next (List.getElem?_eq_getElem inside)]
    exact ⟨here.advance, passes⟩

theorem closeScan_fst (sequence : Sequence) : sequence.closeScan.1 = sequence.targets.head? := by
  cases detected : sequence.targets with
  | nil => exact congrArg Prod.fst (closeScan_nil detected)
  | cons first rest => exact congrArg Prod.fst (closeScan_cons detected)

/-- The end of a scan that kept somebody begins a walk along the kept peers, and no pass. -/
theorem walks_scan (sequence : Sequence) (somebody : kept calls ≠ []) :
    Walks (kept calls) 0 (sequence.restart.noteAll calls).closeScan.2 ∧
      (sequence.restart.noteAll calls).closeScan.2.passes = sequence.passes := by
  have tallied := tallied_scan sequence calls
  obtain ⟨first, rest, parts⟩ := List.exists_cons_of_ne_nil somebody
  rw [← sequence.targets_scan calls] at parts tallied ⊢
  have passes : (sequence.restart.noteAll calls).closeScan.2.passes =
      (sequence.restart.noteAll calls).passes :=
    congrArg (·.2.passes) (closeScan_cons parts)
  exact ⟨walks_closeScan parts tallied, passes.trans (sequence.restart.noteAll_spares calls).2⟩

/-- A scan counts the ranks in range at which somebody was noted, a note is taken if and only if
its rank is in range and new, and the first peer of a rank is kept.  If nobody is kept, the
sequence goes on scanning.  Otherwise the end of the scan yields the first of the kept peers, and
each turn the one behind it, in the order of the ranks; the peer that was yielded last is the
target.  The turn behind the last one is one more pass, and gives up if these are as many as
may be.  A new scan keeps the passes, and a fresh sequence has none. -/
theorem pass_visits_kept_peers (sequence : Sequence) (calls : List (Nat × PeerId)) :
    let noted := sequence.restart.noteAll calls
    let closed := noted.closeScan
    sequence.restart.passes = sequence.passes ∧ fresh.passes = 0 ∧
    noted.count = ((calls.map Prod.fst).toFinset.filter (· < capacity)).card ∧
    (∀ rank peer, (noted.note rank peer).1 = true ↔
      rank < capacity ∧ rank ∉ calls.map Prod.fst) ∧
    (∀ place : Fin capacity, noted.detected[place] = firstAt calls place) ∧
    closed.1 = (kept calls).head? ∧
    (kept calls = [] → closed.2.phase = .scanning) ∧
    ∀ place peer, (kept calls)[place]? = some peer →
      let here := closed.2.turned place
      here.target? = some peer ∧ here.passes = sequence.passes ∧
      (∀ next, (kept calls)[place + 1]? = some next → here.turn.1 = .next next) ∧
      ((kept calls)[place + 1]? = none →
        here.turn.1 = (if sequence.passes + 1 ≥ maxPasses then .giveUp else .scanAgain) ∧
        here.turn.2.passes = sequence.passes + 1) := by
  intro noted closed
  have tallied := tallied_scan sequence calls
  have spares := sequence.restart.noteAll_spares calls
  have head := noted.closeScan_fst
  rw [targets_scan] at head
  refine ⟨rfl, rfl, tallied.trans (length_kept calls), fun rank peer => note_answer_scan,
    sequence.detected_scan calls, head, ?_, ?_⟩
  · intro nobody
    have same : closed.2.phase = noted.phase :=
      congrArg (·.2.phase) (closeScan_nil ((targets_scan sequence calls).trans nobody))
    exact same.trans spares.1
  · intro place peer visited
    obtain ⟨inside, -⟩ := List.getElem?_eq_some_iff.1 visited
    obtain ⟨walks, entered⟩ := walks_scan sequence (List.length_pos_iff.1 (Nat.zero_lt_of_lt inside))
    obtain ⟨here, still⟩ := walks.turned inside
    refine ⟨here.target?.trans visited, still.trans entered, ?_, ?_⟩
    · intro next follows
      rw [here.turn_next follows]
    · intro last
      rw [here.turn_last last, still, entered]
      exact ⟨rfl, rfl⟩

/-- A gap, a rank that is noted twice, and one beyond the last. -/
example :
    kept [(3, ⟨30, by decide⟩), (1, ⟨10, by decide⟩), (1, ⟨11, by decide⟩), (8, ⟨99, by decide⟩)] =
      [⟨10, by decide⟩, ⟨30, by decide⟩] := by
  decide

end BondedMouse.Sequence
