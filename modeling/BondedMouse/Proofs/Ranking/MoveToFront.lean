import BondedMouse.Proofs.Ranking.Order

/-! # A ranking is a bounded move-to-front list

A ranking that the operations have made is a list of at most five different peers, and
each operation does to the slots what its plain counterpart does to the list: the
questions are those about a list, `insert` is a move to the front cut off at the
capacity, and `retainM` asks about the peers one after the other and keeps those with
the answer yes.
-/

namespace BondedMouse.Ranking

/-- The rankings that the operations make, from the free one, which is also what clearing a
ranking leaves. -/
inductive Reached : Ranking → Prop
  | empty : Reached .empty
  | insert {ranking : Ranking} (peer : PeerId) : Reached ranking → Reached (ranking.insert peer).2
  /-- The test may remember what it was asked before. -/
  | retain {σ : Type} {ranking : Ranking} (keep : PeerId → StateM σ Bool) (memory : σ) :
      Reached ranking → Reached ((ranking.retainM keep).run memory).1.2
  | decode {record : List UInt8} {ranking : Ranking} :
      decode? record = some ranking → Reached ranking
  | restore {ε : Type} [RecordStore ε] {ranking : Ranking} (env : ε) :
      Reached ranking → Reached (ranking.restore env).2.1

/-! ## Tests with a memory -/

/-- The peers with the answer yes. -/
def chosen (peers : List PeerId) (answers : List Bool) : List PeerId :=
  ((peers.zip answers).filter Prod.snd).map Prod.fst

@[simp] theorem chosen_nil (answers : List Bool) : chosen [] answers = [] := rfl

theorem chosen_cons (peer : PeerId) (peers : List PeerId) (answer : Bool) (answers : List Bool) :
    chosen (peer :: peers) (answer :: answers) =
      if answer then peer :: chosen peers answers else chosen peers answers := by
  cases answer <;> rfl

theorem chosen_sublist (peers : List PeerId) (answers : List Bool) :
    (chosen peers answers).Sublist peers := by
  induction peers generalizing answers with
  | nil => exact List.Sublist.slnil
  | cons peer peers ih =>
    cases answers with
    | nil => exact List.nil_sublist _
    | cons answer answers =>
      rw [chosen_cons]
      split
      · exact (ih answers).cons_cons peer
      · exact (ih answers).cons peer

theorem length_chosen {peers : List PeerId} {answers : List Bool}
    (each : answers.length = peers.length) :
    (chosen peers answers).length + answers.count false = peers.length := by
  induction peers generalizing answers with
  | nil =>
    rw [List.length_nil, List.length_eq_zero_iff] at each
    rw [each]
    rfl
  | cons peer peers ih =>
    cases answers with
    | nil => cases each
    | cons answer answers =>
      have rest := ih (Nat.succ.inj each)
      rw [chosen_cons, List.length_cons]
      cases answer with
      | false =>
        rw [if_neg Bool.false_ne_true, List.count_cons_self]
        omega
      | true =>
        rw [if_pos rfl, List.length_cons, List.count_cons_of_ne (by decide)]
        omega

section Monads

variable {m : Type → Type} [Monad m] [LawfulMonad m]

theorem filterAuxM_eq (keep : PeerId → m Bool) (peers before : List PeerId) :
    List.filterAuxM keep peers before =
      (fun answers => (chosen peers answers).reverse ++ before) <$> peers.mapM keep := by
  induction peers generalizing before with
  | nil => simp [List.filterAuxM]
  | cons peer peers ih =>
    rw [List.filterAuxM, List.mapM_cons, map_bind]
    refine bind_congr fun answer => ?_
    rw [ih, map_bind, map_eq_pure_bind]
    refine bind_congr fun answers => ?_
    rw [map_pure, chosen_cons]
    cases answer <;> simp

/-- A filter with effects asks about each peer in turn, and goes by the answers. -/
theorem filterM_eq (keep : PeerId → m Bool) (peers : List PeerId) :
    peers.filterM keep = chosen peers <$> peers.mapM keep := by
  rw [List.filterM, filterAuxM_eq, bind_map_left, map_eq_pure_bind]
  simp

end Monads

/-- Each peer is answered for once. -/
theorem length_mapM_run {σ : Type} (keep : PeerId → StateM σ Bool) (peers : List PeerId)
    (memory : σ) : ((peers.mapM keep).run memory).1.length = peers.length := by
  induction peers generalizing memory with
  | nil => rfl
  | cons peer peers ih =>
    rw [List.mapM_cons]
    exact congrArg Nat.succ (ih _)

theorem WellFormed.run_retainM {ranking : Ranking} (formed : ranking.WellFormed) {σ : Type}
    (keep : PeerId → StateM σ Bool) (memory : σ) :
    (ranking.retainM keep).run memory =
      let asked := (ranking.toList.mapM keep).run memory
      ((asked.1.count false, ofList (chosen ranking.toList asked.1)), asked.2) := by
  have whole := length_chosen (length_mapM_run keep ranking.toList memory)
  have dropped : ranking.count -
      (chosen ranking.toList ((ranking.toList.mapM keep).run memory).1).length =
        ((ranking.toList.mapM keep).run memory).1.count false := by
    rw [formed.count_eq]
    omega
  rw [retainM, filterM_eq, bind_map_left]
  dsimp only
  rw [← dropped]
  rfl

theorem toList_ofList_chosen (ranking : Ranking) (answers : List Bool) :
    (ofList (chosen ranking.toList answers)).toList = chosen ranking.toList answers :=
  toList_ofList (Nat.le_trans (chosen_sublist _ answers).length_le ranking.length_toList_le)

theorem chosen_map (keep : PeerId → Bool) (peers : List PeerId) :
    chosen peers (peers.map keep) = peers.filter keep := by
  induction peers with
  | nil => rfl
  | cons peer peers ih => rw [List.map_cons, chosen_cons, List.filter_cons, ih]

/-- A test without a memory is one that never uses it. -/
theorem run_retainM_pure (ranking : Ranking) (keep : PeerId → Bool) {σ : Type} (memory : σ) :
    (ranking.retainM fun peer => (pure (keep peer) : StateM σ Bool)).run memory =
      (ranking.retain keep, memory) := by
  rw [retainM, filterM_eq, List.mapM_pure, map_pure, pure_bind, chosen_map]
  rfl

/-- Whatever keeps to the operations keeps to rankings that they make. -/
theorem reached_closed : Closed Reached where
  empty := .empty
  insert := .insert
  retain := by
    intro ranking keep reached
    have asked := reached.retain (fun peer => (pure (keep peer) : StateM Unit Bool)) ()
    rwa [run_retainM_pure] at asked
  decode := .decode

theorem Reached.formed {ranking : Ranking} (reached : Reached ranking) : ranking.WellFormed := by
  induction reached with
  | empty => exact wellFormed_closed.empty
  | insert peer _ formed => exact wellFormed_closed.insert peer formed
  | @retain σ ranking keep memory _ formed =>
    rw [formed.run_retainM]
    have fewer := chosen_sublist ranking.toList ((ranking.toList.mapM keep).run memory).1
    exact wellFormed_ofList (Nat.le_trans fewer.length_le ranking.length_toList_le)
      (formed.distinct.sublist fewer)
  | decode decoded => exact wellFormed_closed.decode decoded
  | restore env _ formed => exact wellFormed_closed.restore formed env

/-! ## Insertions -/

/-- The fifth peer is the last one of a full list. -/
theorem getElem?_last (ranking : Ranking) (last : PeerId) :
    ranking.toList[4]? = some last ↔
      ranking.toList.length = capacity ∧ ranking.toList.getLast? = some last := by
  have bound : ranking.toList.length ≤ 5 := ranking.length_toList_le
  constructor
  · intro fifth
    obtain ⟨inside, -⟩ := List.getElem?_eq_some_iff.1 fifth
    have full : ranking.toList.length = 5 := by omega
    rw [List.getLast?_eq_getElem?, full]
    exact ⟨rfl, fifth⟩
  · rintro ⟨full, at_end⟩
    rwa [List.getLast?_eq_getElem?, full] at at_end

/-- The answers to an insertion: of the front peer, of one further back, of a new one where there
is room, and of a new one where there is none. -/
inductive Answers (peers : List PeerId) (peer : PeerId) : Insertion → Prop
  | first (front : peers.head? = some peer) : Answers peers peer .unchanged
  | moved (behind : peers.head? ≠ some peer) (present : peer ∈ peers) :
      Answers peers peer .promoted
  | added (absent : peer ∉ peers) (room : peers.length ≠ capacity) : Answers peers peer .promoted
  | pushed {last : PeerId} (absent : peer ∉ peers) (full : peers.length = capacity)
      (at_end : peers.getLast? = some last) : Answers peers peer (.evicted last)

theorem WellFormed.answers {ranking : Ranking} (formed : ranking.WellFormed) (peer : PeerId) :
    Answers ranking.toList peer (ranking.insert peer).1 := by
  have front : ranking.slots[0] = ranking.toList.head? := by
    rw [List.head?_eq_getElem?]
    exact formed.slots_getElem (by decide)
  have overwritten : ranking.slots[ranking.depthFor peer] =
      ranking.toList[(ranking.toList.idxOf? peer).getD 4]? := by
    rw [← formed.depthFor_eq]
    exact formed.slots_getElem (ranking.depthFor peer).isLt
  unfold insert
  dsimp only
  rw [front, overwritten]
  split
  · next first => exact .first first
  · next behind =>
    cases found : ranking.toList.idxOf? peer with
    | none =>
      -- An absent peer is put in over the last slot.
      have absent : peer ∉ ranking.toList := List.idxOf?_eq_none_iff.1 found
      rw [Option.getD_none]
      cases fifth : ranking.toList[4]? with
      | none =>
        refine .added absent fun full => ?_
        have short := List.getElem?_eq_none_iff.1 fifth
        rw [full] at short
        exact absurd short (by decide)
      | some old =>
        have other : old ≠ peer := fun same => absent (same ▸ List.mem_of_getElem? fifth)
        obtain ⟨full, at_end⟩ := (ranking.getElem?_last old).1 fifth
        dsimp only
        rw [if_neg other]
        exact .pushed absent full at_end
    | some rank =>
      obtain ⟨inside, at_rank, -⟩ := List.idxOf?_eq_some_iff.1 found
      have present : peer ∈ ranking.toList := at_rank ▸ List.getElem_mem inside
      rw [Option.getD_some, List.getElem?_eq_getElem inside, at_rank]
      dsimp only
      rw [if_pos rfl]
      exact .moved behind present

/-- What an insertion of the peer makes of the list, and when it gives which answer. -/
structure Inserts (ranking : Ranking) (peer : PeerId) : Prop where
  toList : (ranking.insert peer).2.toList =
    (peer :: ranking.toList.filter (· != peer)).take capacity
  unchanged_iff : (ranking.insert peer).1 = .unchanged ↔ ranking.toList.head? = some peer
  same : (ranking.insert peer).1 = .unchanged → (ranking.insert peer).2 = ranking
  evicted_iff : ∀ last, (ranking.insert peer).1 = .evicted last ↔
    ranking.toList.length = capacity ∧ peer ∉ ranking.toList ∧
      ranking.toList.getLast? = some last
  promoted_iff : (ranking.insert peer).1 = .promoted ↔
    ranking.toList.head? ≠ some peer ∧
      ¬ (ranking.toList.length = capacity ∧ peer ∉ ranking.toList)

theorem Answers.unchanged_iff {peers : List PeerId} {peer : PeerId} {answer : Insertion}
    (answers : Answers peers peer answer) : answer = .unchanged ↔ peers.head? = some peer := by
  cases answers with
  | first front => simp [front]
  | moved behind _ => simp [behind]
  | added absent _ => simpa using fun front => absent (List.mem_of_head? front)
  | pushed absent _ _ => simpa using fun front => absent (List.mem_of_head? front)

theorem Answers.evicted_iff {peers : List PeerId} {peer : PeerId} {answer : Insertion}
    (answers : Answers peers peer answer) (last : PeerId) :
    answer = .evicted last ↔
      peers.length = capacity ∧ peer ∉ peers ∧ peers.getLast? = some last := by
  cases answers with
  | first front => simp [List.mem_of_head? front]
  | moved _ present => simp [present]
  | added _ room => simp [room]
  | pushed absent full at_end => simp [absent, full, at_end]

theorem Answers.promoted_iff {peers : List PeerId} {peer : PeerId} {answer : Insertion}
    (answers : Answers peers peer answer) :
    answer = .promoted ↔
      peers.head? ≠ some peer ∧ ¬ (peers.length = capacity ∧ peer ∉ peers) := by
  cases answers with
  | first front => simp [front]
  | moved behind present => simp [behind, present]
  | added absent room => simpa [room] using fun front => absent (List.mem_of_head? front)
  | pushed absent full _ => simp [absent, full]

theorem WellFormed.inserts {ranking : Ranking} (formed : ranking.WellFormed) (peer : PeerId) :
    ranking.Inserts peer where
  toList := by rw [formed.toList_insert, formed.distinct.erase_eq_filter]
  unchanged_iff := (formed.answers peer).unchanged_iff
  same := fun unchanged => insert_of_unchanged (by rw [unchanged]; rfl)
  evicted_iff := (formed.answers peer).evicted_iff
  promoted_iff := (formed.answers peer).promoted_iff

/-! ## The refinement -/

/-- Whatever operations have made a ranking, it is the list of its peers: they take the leading
slots, none of them twice, the questions about them are those about a list, an insertion is a
bounded move to the front, and dropping peers asks about each of them once, in order, and leaves
those with the answer yes. -/
theorem Reached.refines {ranking : Ranking} (reached : Reached ranking) :
    let peers := ranking.toList
    ranking.slots.toList = peers.map some ++ List.replicate (capacity - peers.length) none ∧
      peers.Nodup ∧
      ranking.count = peers.length ∧
      (∀ rank, ranking.peerAt? rank = peers[rank]?) ∧
      (∀ peer, ranking.rankOf? peer = peers.idxOf? peer) ∧
      (∀ peer, ranking.Inserts peer) ∧
      ∀ {σ : Type} (keep : PeerId → StateM σ Bool) (memory : σ),
        let asked := (peers.mapM keep).run memory
        let result := (ranking.retainM keep).run memory
        result.2 = asked.2 ∧ result.1.2.toList = chosen peers asked.1 ∧
          result.1.1 = asked.1.count false := by
  have formed := reached.formed
  refine ⟨formed.slots_toList, formed.distinct, formed.count_eq, formed.slots_getElem?,
    formed.rankOf?_eq, formed.inserts, fun keep memory => ?_⟩
  rw [formed.run_retainM]
  exact ⟨rfl, ranking.toList_ofList_chosen _, rfl⟩

section Bench

/-- Five peers, inserted one after the other. -/
def crowd : Ranking :=
  [1, 2, 3, 4, 5].foldl (fun ranking raw =>
    (PeerId.ofRaw? raw).elim ranking fun peer => (ranking.insert peer).2) .empty

/-- Every other peer that is asked about stays. -/
def everyOther (_ : PeerId) : StateM Nat Bool := fun asked => (asked % 2 == 0, asked + 1)

theorem reached_crowd : Reached crowd :=
  .insert ⟨5, by decide⟩ <| .insert ⟨4, by decide⟩ <| .insert ⟨3, by decide⟩ <|
    .insert ⟨2, by decide⟩ <| .insert ⟨1, by decide⟩ .empty

/-- A sixth peer pushes out the one that came first, and of the five the second and the fourth to
be asked about go. -/
theorem crowd_refines :
    Reached crowd ∧ (crowd.insert ⟨6, by decide⟩).1 = .evicted ⟨1, by decide⟩ ∧
      crowd.rankOf? ⟨2, by decide⟩ = some 3 ∧
      ((crowd.retainM everyOther).run 0).1.1 = 2 ∧ ((crowd.retainM everyOther).run 0).2 = 5 := by
  obtain ⟨-, -, -, -, ranks, inserts, retains⟩ := Reached.refines reached_crowd
  obtain ⟨asked, -, dropped⟩ := retains everyOther 0
  refine ⟨reached_crowd, ((inserts _).evicted_iff _).2 ?_, (ranks _).trans ?_, dropped.trans ?_,
    asked.trans ?_⟩
  all_goals decide +kernel

end Bench

end BondedMouse.Ranking
