import BondedMouse.Proofs.Ranking.Order
import BondedMouse.Proofs.Reconnect.Sequence

/-! # Detections by rank

During a scan the sequence keeps each detected peer at its rank.  `Notes` ties what it
keeps to the ranking and to the peers that were accepted, in whatever order they came,
how often, and whether ranked or not: the detected peers are the ranked ones among them.
-/

namespace BondedMouse

/-- The ranked peers among some, most recent first. -/
def Ranking.among (ranking : Ranking) (peers : List PeerId) : List PeerId :=
  ranking.toList.filter (· ∈ peers)

namespace Ranking

theorem among_append_of_not_ranked {ranking : Ranking} {peers : List PeerId} {peer : PeerId}
    (unranked : peer ∉ ranking.toList) : ranking.among (peers ++ [peer]) = ranking.among peers := by
  apply List.filter_congr
  intro other member
  have apart : other ≠ peer := fun same => unranked (same ▸ member)
  simp [apart]

theorem among_append_of_mem {ranking : Ranking} {peers : List PeerId} {peer : PeerId}
    (again : peer ∈ peers) : ranking.among (peers ++ [peer]) = ranking.among peers := by
  apply List.filter_congr
  intro other member
  by_cases same : other = peer
  · simp [same, again]
  · simp [same]

theorem WellFormed.length_among_append {ranking : Ranking} (formed : ranking.WellFormed)
    {peers : List PeerId} {peer : PeerId} (ranked : peer ∈ ranking.toList) (new : peer ∉ peers) :
    (ranking.among (peers ++ [peer])).length = (ranking.among peers).length + 1 := by
  obtain ⟨front, back, split⟩ := List.append_of_mem ranked
  have distinct := formed.distinct
  rw [split, List.nodup_append, List.nodup_cons] at distinct
  obtain ⟨-, ⟨notBehind, -⟩, apart⟩ := distinct
  have same : ∀ others : List PeerId, peer ∉ others →
      others.filter (· ∈ peers ++ [peer]) = others.filter (· ∈ peers) := by
    intro others absent
    apply List.filter_congr
    intro other member
    have differs : other ≠ peer := fun equal => absent (equal ▸ member)
    simp [differs]
  have notInFront : peer ∉ front := fun member =>
    apart peer member peer List.mem_cons_self rfl
  rw [among, among, split, List.filter_append, List.filter_append, same front notInFront,
    List.filter_cons_of_pos (by simp), List.filter_cons_of_neg (by simpa using new),
    same back notBehind]
  simp only [List.length_append, List.length_cons]
  omega

theorem WellFormed.rankOf?_getElem {ranking : Ranking} (formed : ranking.WellFormed) {rank : Nat}
    (inside : rank < ranking.toList.length) :
    ranking.rankOf? ranking.toList[rank] = some rank := by
  rw [formed.rankOf?_eq, List.idxOf?_eq_some_iff]
  refine ⟨inside, rfl, fun other before same => ?_⟩
  exact absurd same (List.pairwise_iff_getElem.1 formed.distinct other rank _ inside before)

theorem WellFormed.pairwise_among {ranking : Ranking} (formed : ranking.WellFormed)
    (peers : List PeerId) :
    (ranking.among peers).Pairwise fun first second =>
      ∃ rank later, ranking.rankOf? first = some rank ∧ ranking.rankOf? second = some later ∧
        rank < later := by
  refine List.Pairwise.filter _ (List.pairwise_iff_getElem.2 ?_)
  intro rank later inside within before
  exact ⟨rank, later, formed.rankOf?_getElem inside, formed.rankOf?_getElem within, before⟩

theorem WellFormed.mem_toList_iff {ranking : Ranking} (formed : ranking.WellFormed)
    {peer : PeerId} : peer ∈ ranking.toList ↔ (ranking.rankOf? peer).isSome := by
  rw [formed.rankOf?_eq, List.isSome_idxOf?]

end Ranking

namespace Sequence

/-- The sequence scans, and holds at each rank its peer if that is among the accepted ones. -/
structure Notes (ranking : Ranking) (accepted : List PeerId) (sequence : Sequence) : Prop where
  phase : sequence.phase = .scanning
  slots : sequence.detected.toList =
    ranking.toList.map (Option.guard (· ∈ accepted)) ++
      List.replicate (capacity - ranking.toList.length) none
  count : sequence.count = (ranking.among accepted).length

namespace Notes

variable {ranking : Ranking} {accepted : List PeerId} {sequence : Sequence}

theorem restart (ranking : Ranking) (sequence : Sequence) : Notes ranking [] sequence.restart where
  phase := rfl
  slots := by
    have nobody : ranking.toList.map (Option.guard fun peer => decide (peer ∈ [])) =
        List.replicate ranking.toList.length none := by
      refine List.eq_replicate_iff.2 ⟨List.length_map .., fun slot member => ?_⟩
      obtain ⟨peer, -, rfl⟩ := List.mem_map.1 member
      simp [Option.guard]
    have room : ranking.toList.length ≤ capacity :=
      Nat.le_trans ranking.length_toList_le (by decide)
    rw [nobody, List.replicate_append_replicate, Nat.add_sub_cancel' room]
    rfl
  count := by
    have nobody : ranking.among [] = [] := List.filter_eq_nil_iff.2 (by simp)
    rw [nobody]
    rfl

/-- What the scan detected, by rank. -/
theorem targets (notes : Notes ranking accepted sequence) :
    sequence.targets = ranking.among accepted := by
  rw [Sequence.targets, notes.slots, List.filterMap_append, List.filterMap_map]
  have free : (List.replicate (capacity - ranking.toList.length)
      (none : Option PeerId)).filterMap id = [] := by simp
  rw [free, List.append_nil]
  exact congrFun List.filterMap_eq_filter _

theorem count_targets (notes : Notes ranking accepted sequence) :
    sequence.count = sequence.targets.length := by
  rw [notes.targets, notes.count]

theorem slot (notes : Notes ranking accepted sequence) {rank : Nat} (small : rank < capacity)
    (ranked : rank < ranking.toList.length) :
    sequence.detected[rank] = Option.guard (· ∈ accepted) ranking.toList[rank] := by
  have listed : sequence.detected.toList[rank]? = some sequence.detected[rank] := by
    rw [Vector.getElem?_toList, Vector.getElem?_eq_getElem small]
  rw [notes.slots, List.getElem?_append_left (by rwa [List.length_map]), List.getElem?_map,
    List.getElem?_eq_getElem ranked] at listed
  exact (Option.some.inj listed).symm

/-- A peer that changes neither the entries nor the detected peers. -/
theorem unchanged {more : List PeerId} (notes : Notes ranking accepted sequence)
    (same : ranking.among more = ranking.among accepted)
    (member : ∀ peer ∈ ranking.toList, peer ∈ more ↔ peer ∈ accepted) :
    Notes ranking more sequence where
  phase := notes.phase
  slots := by
    have entries : ranking.toList.map (Option.guard fun peer => decide (peer ∈ more)) =
        ranking.toList.map (Option.guard fun peer => decide (peer ∈ accepted)) :=
      List.map_congr_left fun peer ranked => by simp [Option.guard, member peer ranked]
    rw [entries]
    exact notes.slots
  count := by rw [same]; exact notes.count

theorem note_new (formed : ranking.WellFormed) (notes : Notes ranking accepted sequence) {rank : Nat}
    (small : rank < capacity) (ranked : rank < ranking.toList.length)
    (new : ranking.toList[rank] ∉ accepted) :
    Notes ranking (accepted ++ [ranking.toList[rank]])
      { sequence with
        detected := sequence.detected.set rank (some ranking.toList[rank])
        count := sequence.count + 1 } where
  phase := notes.phase
  slots := by
    rw [Vector.toList_set, notes.slots, List.set_append_left _ _ (by rwa [List.length_map])]
    refine congrArg (· ++ _) (List.ext_getElem (by simp) fun place inside within => ?_)
    have listed : place < ranking.toList.length := by simpa using within
    rw [List.getElem_set, List.getElem_map]
    by_cases here : rank = place
    · subst here
      simp [Option.guard]
    · have differs : ranking.toList[place] ≠ ranking.toList[rank] := fun same => here <| by
        have ranks := formed.rankOf?_getElem listed
        rw [same, formed.rankOf?_getElem ranked] at ranks
        exact Option.some.inj ranks
      simp [here, Option.guard, differs]
  count := by
    rw [formed.length_among_append (List.getElem_mem ranked) new]
    exact congrArg (· + 1) notes.count

/-- One more peer is accepted: it is noted, unless it was before or has no rank. -/
theorem accept (formed : ranking.WellFormed) (notes : Notes ranking accepted sequence)
    (peer : PeerId) :
    Notes ranking (accepted ++ [peer])
      (match ranking.rankOf? peer with
      | some rank => (sequence.note rank peer).2
      | none => sequence) := by
  cases found : ranking.rankOf? peer with
  | none =>
    have unranked : peer ∉ ranking.toList := by
      rw [formed.mem_toList_iff, found]
      simp
    apply notes.unchanged (Ranking.among_append_of_not_ranked unranked)
    intro other ranked
    have apart : other ≠ peer := fun same => unranked (same ▸ ranked)
    simp [apart]
  | some rank =>
    rw [formed.rankOf?_eq, List.idxOf?_eq_some_iff] at found
    obtain ⟨ranked, rfl, -⟩ := found
    have small : rank < capacity :=
      Nat.lt_of_lt_of_le (Nat.lt_of_lt_of_le ranked ranking.length_toList_le) (by decide)
    have slot := notes.slot small ranked
    simp only [Sequence.note, dif_pos small]
    by_cases again : ranking.toList[rank] ∈ accepted
    · have taken : sequence.detected[rank] = some ranking.toList[rank] := by
        simpa [Option.guard, again] using slot
      rw [taken]
      apply notes.unchanged (Ranking.among_append_of_mem again)
      intro other _
      by_cases same : other = ranking.toList[rank]
      · simp [same, again]
      · simp [same]
    · have free : sequence.detected[rank] = none := by
        simpa [Option.guard, again] using slot
      rw [free]
      exact notes.note_new formed small ranked again

end Notes

end Sequence

end BondedMouse
