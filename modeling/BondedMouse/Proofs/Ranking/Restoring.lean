import BondedMouse.Proofs.Ranking.Codec
import BondedMouse.Proofs.Ranking.MoveToFront
import BondedMouse.Simulation.Platform

/-! # Records read back

The records are an exact code for the rankings whose slots are in order: no bytes but a
ranking's record are read as it, and so no two records as the same one.  Restoring from
a store is all or nothing, whatever the store answers: either the present ranking gives
way to the one that is stored, or it stays as it is.
-/

namespace BondedMouse.Ranking

/-- No peer stands behind a free slot, and none stands in two slots. -/
structure Proper (ranking : Ranking) : Prop where
  gapless : ∀ near far : Fin capacity, near < far →
    ranking.slots.get near = none → ranking.slots.get far = none
  single : ∀ near far : Fin capacity, ranking.slots.get near ≠ none →
    ranking.slots.get near = ranking.slots.get far → near = far

instance (ranking : Ranking) : Decidable ranking.Proper :=
  decidable_of_iff
    ((∀ near far : Fin capacity, near < far →
        ranking.slots.get near = none → ranking.slots.get far = none) ∧
      ∀ near far : Fin capacity, ranking.slots.get near ≠ none →
        ranking.slots.get near = ranking.slots.get far → near = far)
    ⟨fun each => ⟨each.1, each.2⟩, fun proper => ⟨proper.gapless, proper.single⟩⟩

/-! ## Slots in order -/

theorem WellFormed.proper {ranking : Ranking} (formed : ranking.WellFormed) : ranking.Proper where
  gapless := by
    intro near far behind free
    have ended : ranking.toList[near.val]? = none :=
      (formed.slots_getElem near.isLt).symm.trans free
    refine (formed.slots_getElem far.isLt).trans (List.getElem?_eq_none ?_)
    exact Nat.le_trans (List.getElem?_eq_none_iff.1 ended) (Nat.le_of_lt behind)
  single := by
    intro near far taken same
    have listed : ranking.slots.get near = ranking.toList[near.val]? :=
      formed.slots_getElem near.isLt
    rw [listed] at taken same
    have inside : near.val < ranking.toList.length := by
      refine Nat.lt_of_not_le fun beyond => taken (List.getElem?_eq_none beyond)
    exact Fin.ext ((List.getElem?_inj inside formed.distinct).1
      (same.trans (formed.slots_getElem far.isLt)))

theorem leading_getElem? {slots : List (Option PeerId)} {rank : Nat} {peer : PeerId}
    (listed : (leading slots)[rank]? = some peer) : slots[rank]? = some (some peer) := by
  obtain ⟨inside, -⟩ := List.getElem?_eq_some_iff.1 listed
  rw [← List.getElem?_take_of_lt inside, take_leading, List.getElem?_map, listed]
  rfl

/-- The leading peers end at a free slot, or with the slots. -/
theorem getElem?_length_leading (slots : List (Option PeerId)) :
    (slots[(leading slots).length]?).join = none := by
  induction slots with
  | nil => rfl
  | cons slot slots ih =>
    cases slot with
    | none => rfl
    | some peer => exact ih

theorem Proper.formed {ranking : Ranking} (proper : ranking.Proper) : ranking.WellFormed where
  compact := by
    rw [Ranking.compact, List.all_eq_true]
    intro slot behind
    obtain ⟨rank, at_rank⟩ := List.mem_iff_getElem?.1 behind
    rw [List.getElem?_drop, Vector.getElem?_toList] at at_rank
    obtain ⟨inside, rfl⟩ := Vector.getElem?_eq_some_iff.1 at_rank
    have ended := getElem?_length_leading ranking.slots.toList
    have first : (leading ranking.slots.toList).length < capacity := by omega
    rw [Vector.getElem?_toList, Vector.getElem?_eq_getElem first] at ended
    rw [beq_iff_eq]
    cases rank with
    | zero => exact ended
    | succ rank =>
      have later : (⟨_, first⟩ : Fin capacity) < ⟨_, inside⟩ :=
        Nat.lt_add_of_pos_right (Nat.succ_pos rank)
      exact proper.gapless _ _ later ended
  distinct := by
    refine List.pairwise_iff_getElem.2 fun near far at_near at_far before same => ?_
    have at_near := leading_getElem? (List.getElem?_eq_getElem at_near)
    have at_far := leading_getElem? (List.getElem?_eq_getElem at_far)
    rw [Vector.getElem?_toList] at at_far at_near
    obtain ⟨far_inside, far_taken⟩ := Vector.getElem?_eq_some_iff.1 at_far
    obtain ⟨near_inside, near_taken⟩ := Vector.getElem?_eq_some_iff.1 at_near
    have taken : ranking.slots.get ⟨near, near_inside⟩ ≠ none :=
      fun free => Option.some_ne_none _ (near_taken.symm.trans free)
    have together := proper.single ⟨near, near_inside⟩ ⟨far, far_inside⟩ taken
      (near_taken.trans ((congrArg some same).trans far_taken.symm))
    exact absurd (Fin.val_eq_of_eq together) (Nat.ne_of_lt before)

theorem proper_iff {ranking : Ranking} : ranking.Proper ↔ ranking.WellFormed :=
  ⟨Proper.formed, WellFormed.proper⟩

/-! ## The code -/

theorem encode_injective : Function.Injective encode := by
  intro left right same
  have bytes := congrArg (List.take capacity) same
  rw [take_encode, take_encode] at bytes
  have slots := (List.map_inj_right fun _ _ => PeerId.slotByte_injective).1 bytes
  exact congrArg Ranking.mk (Vector.toList_inj.1 slots)

/-- What a store can say to a read: that it failed, that it has no record, or the record. -/
inductive StoreAnswer
  | failed (error : StorageError)
  | absent
  | record (bytes : List UInt8)

namespace StoreAnswer

/-- The answer as a reader with the given room gets it: of a longer record the first bytes, beside
the length of the whole. -/
def reading (room : Nat) : StoreAnswer → Except StorageError (Option Reading)
  | failed error => .error error
  | absent => .ok none
  | record bytes => .ok (some ⟨bytes.length, bytes.take room⟩)

/-- What is reported when the answer holds no ranking. -/
def refusal : StoreAnswer → Except StorageError Bool
  | failed error => .error error
  | absent | record _ => .ok false

/-- The ranking whose record the answer is. -/
def ranking? : StoreAnswer → Option Ranking
  | failed _ | absent => none
  | record bytes => decode? bytes

end StoreAnswer

/-- Also a record that does not fit into the buffer is judged by what it is as a whole. -/
theorem ofReading?_record (bytes : List UInt8) :
    ofReading? ⟨bytes.length, bytes.take Record.room⟩ = decode? bytes := by
  unfold ofReading?
  split
  · next fits => rw [List.take_take, Nat.min_eq_left fits, List.take_length]
  · next long =>
    have other : bytes.length ≠ Record.length := by
      intro same
      exact long (same ▸ Nat.le_succ _)
    rw [decode?, dif_neg other]

/-- Restoring goes by the ranking in the store's answer, and changes the environment only by the
one read. -/
theorem restore_eq {ε : Type} [RecordStore ε] (ranking : Ranking) {env last : ε}
    {answer : StoreAnswer}
    (answers : RecordStore.read Record.key Record.room env = (answer.reading Record.room, last)) :
    ranking.restore env =
      answer.ranking?.elim (answer.refusal, ranking, last) fun stored => (.ok true, stored, last) := by
  unfold restore
  rw [answers]
  cases answer with
  | failed error => rfl
  | absent => rfl
  | record bytes =>
    simp only [StoreAnswer.reading, StoreAnswer.ranking?, StoreAnswer.refusal, Option.bind_some,
      ofReading?_record]
    cases decode? bytes <;> rfl

theorem StoreAnswer.ranking?_eq_some_iff {answer : StoreAnswer} {stored : Ranking} :
    answer.ranking? = some stored ↔ stored.Proper ∧ answer = .record stored.encode := by
  cases answer with
  | failed error => simp [ranking?]
  | absent => simp [ranking?]
  | record bytes =>
    rw [ranking?, decode?_eq_some_iff, proper_iff, StoreAnswer.record.injEq]

/-- The records are an exact code for the rankings in order, among them all that the operations
make.  Restoring one leads to the only ranking whose record the store holds, or, where there is
none or the read failed, nowhere. -/
theorem records_are_exact :
    (∀ record ranking, decode? record = some ranking ↔
      ranking.Proper ∧ record = ranking.encode) ∧
    (∀ ranking, Reached ranking → decode? ranking.encode = some ranking) ∧
    (∀ record other ranking, decode? record = some ranking → decode? other = some ranking →
      record = other) ∧
    ∀ {ε : Type} [RecordStore ε] (ranking : Ranking) (env last : ε) (answer : StoreAnswer),
      RecordStore.read Record.key Record.room env = (answer.reading Record.room, last) →
        (∃ stored : Ranking, stored.Proper ∧ answer = .record stored.encode ∧
          (∀ other : Ranking, answer = .record other.encode → other = stored) ∧
          ranking.restore env = (.ok true, stored, last)) ∨
        ((¬ ∃ stored : Ranking, stored.Proper ∧ answer = .record stored.encode) ∧
          ranking.restore env = (answer.refusal, ranking, last)) := by
  have exact : ∀ record ranking, decode? record = some ranking ↔
      ranking.Proper ∧ record = ranking.encode := by
    intro record ranking
    rw [decode?_eq_some_iff, proper_iff]
  refine ⟨exact, fun ranking reached => (exact _ _).2 ⟨reached.formed.proper, rfl⟩, ?_, ?_⟩
  · intro record other ranking first second
    exact ((exact _ _).1 first).2.trans ((exact _ _).1 second).2.symm
  · intro ε _ ranking env last answer answers
    have became := ranking.restore_eq answers
    cases found : answer.ranking? with
    | none =>
      rw [found] at became
      refine .inr ⟨?_, became⟩
      rintro ⟨stored, held⟩
      have listed := StoreAnswer.ranking?_eq_some_iff.2 held
      rw [found] at listed
      cases listed
    | some stored =>
      rw [found] at became
      obtain ⟨proper, held⟩ := StoreAnswer.ranking?_eq_some_iff.1 found
      refine .inl ⟨stored, proper, held, fun other same => ?_, became⟩
      exact encode_injective (StoreAnswer.record.inj (same.symm.trans held))

section Bench

open Simulation

/-- A store with one record, which cuts off what does not fit into the reader's buffer. -/
def holding (bytes : List UInt8) : Platform :=
  { registry := [], records := .insert .empty Record.key bytes, failures := { truncates := true } }

theorem read_holding (bytes : List UInt8) :
    RecordStore.read Record.key Record.room (holding bytes) =
      ((StoreAnswer.record bytes).reading Record.room, holding bytes) := by
  show ((if bytes.length ≤ Record.room ∨ true then _ else _ : Except StorageError _), _) = _
  rw [if_pos (.inr rfl)]
  rfl

/-- The record of five peers is restored; with two bytes behind it, it is longer than the buffer
and is refused. -/
theorem crowd_exact :
    decode? crowd.encode = some crowd ∧
      empty.restore (holding crowd.encode) = (.ok true, crowd, holding crowd.encode) ∧
      crowd.restore (holding (crowd.encode ++ [0, 0])) =
        (.ok false, crowd, holding (crowd.encode ++ [0, 0])) := by
  obtain ⟨-, decodes, -, restores⟩ := records_are_exact
  refine ⟨decodes crowd reached_crowd, ?_, ?_⟩
  · obtain ⟨stored, -, -, only, became⟩ | ⟨missing, -⟩ :=
      restores empty _ _ _ (read_holding crowd.encode)
    · rw [became, only crowd rfl]
    · exact absurd ⟨crowd, by decide +kernel, rfl⟩ missing
  · obtain ⟨stored, -, held, -⟩ | ⟨-, became⟩ :=
      restores crowd _ _ _ (read_holding (crowd.encode ++ [0, 0]))
    · have same := congrArg List.length (StoreAnswer.record.inj held)
      rw [List.length_append, length_encode, length_encode] at same
      exact absurd same (by decide)
    · exact became

end Bench

end BondedMouse.Ranking
