import BondedMouse.Ranking.Record

/-! # Rankings as lists

A well-formed ranking has its peers in the leading slots, and none of them twice; it is
then determined by its list of peers.  Every operation on rankings leads from
well-formed ones to well-formed ones, and `insert` is the move to the front of the list.
-/

namespace BondedMouse.Ranking

/-- The peers take the leading slots and differ from each other. -/
structure WellFormed (ranking : Ranking) : Prop where
  compact : compact ranking.slots.toList = true
  distinct : ranking.toList.Nodup

/-! ## The slots of a list -/

theorem take_leading (slots : List (Option PeerId)) :
    slots.take (leading slots).length = (leading slots).map some := by
  induction slots with
  | nil => rfl
  | cons slot rest ih =>
    cases slot with
    | none => rfl
    | some peer => simp [leading, ih]

theorem length_leading_le (slots : List (Option PeerId)) :
    (leading slots).length ≤ slots.length := by
  have taken := congrArg List.length (take_leading slots)
  rw [List.length_take, List.length_map] at taken
  omega

theorem length_toList_le (ranking : Ranking) : ranking.toList.length ≤ capacity := by
  have bound := length_leading_le ranking.slots.toList
  rwa [Vector.length_toList] at bound

/-- The slots of a well-formed ranking are its peers and free places behind them. -/
theorem WellFormed.slots_toList {ranking : Ranking} (formed : ranking.WellFormed) :
    ranking.slots.toList =
      ranking.toList.map some ++ List.replicate (capacity - ranking.toList.length) none := by
  -- The slots behind the leading ones are all free.
  have free : ranking.slots.toList.drop ranking.toList.length =
      List.replicate (capacity - ranking.toList.length) none := by
    have each := formed.compact
    simp only [Ranking.compact, List.all_eq_true, beq_iff_eq] at each
    refine List.eq_replicate_iff.2 ⟨?_, each⟩
    rw [List.length_drop, Vector.length_toList]
  rw [← free]
  have first := take_leading ranking.slots.toList
  rw [show ranking.toList.map some = _ from first.symm]
  exact (List.take_append_drop _ _).symm

theorem WellFormed.slots_getElem? {ranking : Ranking} (formed : ranking.WellFormed) (rank : Nat) :
    (ranking.slots[rank]?).join = ranking.toList[rank]? := by
  rw [← Vector.getElem?_toList, formed.slots_toList]
  by_cases small : rank < ranking.toList.length
  · rw [List.getElem?_append_left (by rwa [List.length_map])]
    simp [small]
  · have beyond : (ranking.toList.map some).length ≤ rank := by
      rw [List.length_map]
      exact Nat.not_lt.1 small
    rw [List.getElem?_append_right beyond, List.getElem?_replicate,
      List.getElem?_eq_none (Nat.not_lt.1 small)]
    split <;> rfl

theorem leading_append_none (peers : List PeerId) (count : Nat) :
    leading (peers.map some ++ List.replicate count none) = peers := by
  induction peers with
  | nil => cases count <;> rfl
  | cons peer peers ih => simp [leading, ih]

theorem slots_ofList_getElem? (peers : List PeerId) {rank : Nat} (small : rank < capacity) :
    (ofList peers).slots[rank]? = some peers[rank]? := by
  simp [ofList, small]

theorem slots_ofList {peers : List PeerId} (room : peers.length ≤ capacity) :
    (ofList peers).slots.toList =
      peers.map some ++ List.replicate (capacity - peers.length) none := by
  -- Rank by rank: an entry of the list, a free slot, or beyond the slots.
  apply List.ext_getElem?
  intro rank
  rw [Vector.getElem?_toList]
  by_cases inside : rank < capacity
  · rw [slots_ofList_getElem? peers inside]
    by_cases small : rank < peers.length
    · rw [List.getElem?_append_left (by rwa [List.length_map])]
      simp [small]
    · have beyond : (peers.map some).length ≤ rank := by
        rw [List.length_map]
        exact Nat.not_lt.1 small
      have filled : rank - peers.length < capacity - peers.length := by omega
      rw [List.getElem?_append_right beyond, List.length_map, List.getElem?_replicate,
        if_pos filled, List.getElem?_eq_none (Nat.not_lt.1 small)]
  · have outside : capacity ≤ rank := by omega
    rw [Vector.getElem?_eq_none outside, List.getElem?_eq_none]
    rw [List.length_append, List.length_map, List.length_replicate]
    omega

@[simp] theorem toList_ofList {peers : List PeerId} (room : peers.length ≤ capacity) :
    (ofList peers).toList = peers := by
  rw [toList, slots_ofList room, leading_append_none]

theorem wellFormed_ofList {peers : List PeerId} (room : peers.length ≤ capacity)
    (distinct : peers.Nodup) : (ofList peers).WellFormed where
  compact := by
    rw [Ranking.compact, slots_ofList room, leading_append_none]
    simp
  distinct := by rwa [toList_ofList room]

theorem WellFormed.eq_ofList {ranking : Ranking} (formed : ranking.WellFormed) :
    ranking = ofList ranking.toList := by
  have same : ranking.slots = (ofList ranking.toList).slots := by
    rw [← Vector.toList_inj, slots_ofList ranking.length_toList_le]
    exact formed.slots_toList
  exact congrArg Ranking.mk same

/-! ## Counts and ranks -/

theorem WellFormed.count_eq {ranking : Ranking} (formed : ranking.WellFormed) :
    ranking.count = ranking.toList.length := by
  have free : ∀ count, (List.replicate count (none : Option PeerId)).findIdx (· == none) = 0 := by
    intro count
    cases count <;> rfl
  rw [count, formed.slots_toList, List.findIdx_append, if_neg (by simp), free, List.length_map,
    Nat.zero_add]

theorem idxOf?_map_some (peers : List PeerId) (count : Nat) (peer : PeerId) :
    (peers.map some ++ List.replicate count none).idxOf? (some peer) = peers.idxOf? peer := by
  induction peers with
  | nil => simp [List.idxOf?_eq_none_iff]
  | cons first rest ih =>
    rw [List.map_cons, List.cons_append, List.idxOf?_cons, List.idxOf?_cons, ih]
    rfl

theorem WellFormed.rankOf?_eq {ranking : Ranking} (formed : ranking.WellFormed) (peer : PeerId) :
    ranking.rankOf? peer = ranking.toList.idxOf? peer := by
  rw [rankOf?, formed.slots_toList, idxOf?_map_some]

/-! ## Insertions -/

/-- The slot that an insertion overwrites is the peer's, or the last. -/
theorem WellFormed.depthFor_eq {ranking : Ranking} (formed : ranking.WellFormed) (peer : PeerId) :
    (ranking.depthFor peer).val = (ranking.toList.idxOf? peer).getD 4 := by
  have found : ranking.toList.idxOf? peer =
      (ranking.slots.finIdxOf? (some peer)).map Fin.val := by
    rw [← formed.rankOf?_eq, rankOf?, List.idxOf?_eq_map_finIdxOf?_val, Vector.finIdxOf?_toList]
    cases ranking.slots.finIdxOf? (some peer) <;> rfl
  rw [found, depthFor]
  cases ranking.slots.finIdxOf? (some peer) <;> rfl

/-- What stands behind the front once a peer is gone from its old rank. -/
theorem getElem?_erase {peers : List PeerId} (peer : PeerId) {rank : Nat} (room : rank < 4) :
    (peers.erase peer)[rank]? =
      if rank < (peers.idxOf? peer).getD 4 then peers[rank]? else peers[rank + 1]? := by
  rw [List.erase_eq_eraseIdx]
  cases peers.idxOf? peer with
  | none => simp [room]
  | some depth => simp [List.getElem?_eraseIdx]

theorem WellFormed.slots_getElem {ranking : Ranking} (formed : ranking.WellFormed) {rank : Nat}
    (inside : rank < capacity) : ranking.slots[rank] = ranking.toList[rank]? := by
  rw [← formed.slots_getElem?, Vector.getElem?_eq_getElem inside]
  rfl

theorem WellFormed.pushFront_eq {ranking : Ranking} (formed : ranking.WellFormed) (peer : PeerId) :
    ranking.pushFront peer (ranking.depthFor peer) =
      ofList (peer :: ranking.toList.erase peer) := by
  refine congrArg Ranking.mk (Vector.ext fun rank inside => ?_)
  rw [Vector.getElem_ofFn, Vector.getElem_ofFn]
  cases rank with
  | zero => rfl
  | succ rank =>
    have front : (⟨rank + 1, inside⟩ : Fin capacity) ≠ 0 := by simp [Fin.ext_iff]
    -- Down to the peer's own slot everything moves back, behind it nothing does.
    have deep : (⟨rank + 1, inside⟩ : Fin capacity) ≤ ranking.depthFor peer ↔
        rank < (ranking.toList.idxOf? peer).getD 4 := by
      rw [Fin.le_def, formed.depthFor_eq]
      exact Nat.succ_le_iff
    rw [if_neg front, Fin.getElem?_fin, List.getElem?_cons_succ,
      getElem?_erase peer (Nat.lt_of_succ_lt_succ inside)]
    by_cases inFront : rank < (ranking.toList.idxOf? peer).getD 4
    · rw [if_pos (deep.2 inFront), if_pos inFront]
      exact formed.slots_getElem (by omega)
    · rw [if_neg fun within => inFront (deep.1 within), if_neg inFront]
      exact formed.slots_getElem inside

/-- An insertion moves the peer to the front; of a full ranking the last peer falls off. -/
theorem WellFormed.insert_eq {ranking : Ranking} (formed : ranking.WellFormed) (peer : PeerId) :
    (ranking.insert peer).2 = ofList (peer :: ranking.toList.erase peer) := by
  unfold insert
  dsimp only
  split
  · next first =>
    have head : ranking.toList[0]? = some peer := by
      rw [← formed.slots_getElem (by decide : 0 < capacity)]
      exact first
    cases listed : ranking.toList with
    | nil => simp [listed] at head
    | cons front rest =>
      have same : front = peer := by simpa [listed] using head
      -- The peer was in front already, and erasing it there takes nothing else away.
      have whole := formed.eq_ofList
      rw [listed, same] at whole
      rw [same, List.erase_cons_head]
      exact whole
  · split <;> exact formed.pushFront_eq peer

theorem ofList_take (peers : List PeerId) : ofList (peers.take capacity) = ofList peers := by
  refine congrArg Ranking.mk (Vector.ext fun rank inside => ?_)
  simp

theorem WellFormed.nodup_front {ranking : Ranking} (formed : ranking.WellFormed) (peer : PeerId) :
    (peer :: ranking.toList.erase peer).Nodup :=
  List.nodup_cons.2 ⟨formed.distinct.not_mem_erase, formed.distinct.erase peer⟩

theorem WellFormed.toList_insert {ranking : Ranking} (formed : ranking.WellFormed) (peer : PeerId) :
    (ranking.insert peer).2.toList = (peer :: ranking.toList.erase peer).take capacity := by
  rw [formed.insert_eq, ← ofList_take, toList_ofList (List.length_take_le _ _)]

/-- An insertion that says that nothing changed has changed nothing. -/
theorem insert_of_unchanged {ranking : Ranking} {peer : PeerId}
    (unchanged : (ranking.insert peer).1.changed = false) : (ranking.insert peer).2 = ranking := by
  unfold insert at unchanged ⊢
  dsimp only at unchanged ⊢
  split
  · rfl
  · next other =>
    rw [if_neg other] at unchanged
    split at unchanged
    · split at unchanged <;> simp [Insertion.changed] at unchanged
    · simp [Insertion.changed] at unchanged

/-! ## Dropped peers -/

@[simp] theorem toList_retain (ranking : Ranking) (keep : PeerId → Bool) :
    (ranking.retain keep).2.toList = ranking.toList.filter keep :=
  toList_ofList (Nat.le_trans (List.length_filter_le _ _) ranking.length_toList_le)

theorem WellFormed.dropped_eq_zero_iff {ranking : Ranking} (formed : ranking.WellFormed)
    (keep : PeerId → Bool) :
    (ranking.retain keep).1 = 0 ↔ ∀ peer ∈ ranking.toList, keep peer = true := by
  rw [← List.length_filter_eq_length_iff]
  have shorter := List.length_filter_le keep ranking.toList
  simp only [retain, formed.count_eq]
  omega

theorem WellFormed.retain_of_all {ranking : Ranking} (formed : ranking.WellFormed)
    {keep : PeerId → Bool} (all : ∀ peer ∈ ranking.toList, keep peer = true) :
    (ranking.retain keep).2 = ranking := by
  calc (ranking.retain keep).2
    _ = ofList (ranking.toList.filter keep) := rfl
    _ = ofList ranking.toList := by rw [List.filter_eq_self.2 all]
    _ = ranking := formed.eq_ofList.symm

/-! ## Properties that the operations keep -/

/-- The operations on rankings keep the property. -/
structure Closed (kept : Ranking → Prop) : Prop where
  empty : kept .empty
  insert : ∀ {ranking : Ranking} (peer : PeerId), kept ranking → kept (ranking.insert peer).2
  retain : ∀ {ranking : Ranking} (keep : PeerId → Bool), kept ranking → kept (ranking.retain keep).2
  decode : ∀ {record : List UInt8} {ranking : Ranking}, decode? record = some ranking → kept ranking

theorem Closed.trivial : Closed fun _ => True :=
  ⟨True.intro, fun _ _ => True.intro, fun _ _ => True.intro, fun _ => True.intro⟩

/-- Also a ranking that is restored from a store keeps it. -/
theorem Closed.restore {kept : Ranking → Prop} (closed : Closed kept) {ε : Type} [RecordStore ε]
    {ranking : Ranking} (holds : kept ranking) (env : ε) : kept (ranking.restore env).2.1 := by
  unfold Ranking.restore
  split
  · exact holds
  · next reading env read =>
    split
    · next stored found =>
      obtain ⟨reading, -, decoded⟩ := Option.bind_eq_some_iff.1 found
      unfold ofReading? at decoded
      split at decoded
      · exact closed.decode decoded
      · cases decoded
    · exact holds

theorem wellFormed_closed : Closed WellFormed where
  empty := by
    have room : ([] : List PeerId).length ≤ capacity := Nat.zero_le _
    exact wellFormed_ofList room List.nodup_nil
  insert := by
    intro ranking peer formed
    rw [formed.insert_eq, ← ofList_take]
    exact wellFormed_ofList (List.length_take_le _ _) (formed.nodup_front peer |>.take)
  retain := by
    intro ranking keep formed
    have shorter := List.length_filter_le keep ranking.toList
    exact wellFormed_ofList (Nat.le_trans shorter ranking.length_toList_le)
      (formed.distinct.filter keep)
  decode := by
    intro record ranking decoded
    simp only [decode?] at decoded
    split at decoded
    · split at decoded
      · next valid =>
        cases decoded
        exact ⟨valid.2.1, valid.2.2⟩
      · cases decoded
    · cases decoded

end BondedMouse.Ranking
