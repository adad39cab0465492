import BondedMouse.Proofs.Bounds.Rankings
import BondedMouse.Reconnect.Sequence
import BondedMouse.Security.BondTable
import BondedMouse.Storage.SaveBudget

/-! # Guarded counters and tables

The directed sequence and the budget of saves count in bytes, and so their guarded
operations have a value only while there is room to count on.  The whitelist and the
registry of bonds are searched before they are accessed; there the guards always hold.
-/

namespace BondedMouse

/-! ## The directed sequence -/

namespace Sequence

def guardedNote (sequence : Sequence) (rank : Nat) (peer : PeerId) : Option (Bool × Sequence) :=
  match sequence.detected[rank]? with
  | some none => do
    let detected ← Guarded.write sequence.detected rank (some peer)
    let count ← Guarded.bump sequence.count
    return (true, { sequence with detected, count })
  | some (some _) | none => some (false, sequence)

def guardedCloseScan (sequence : Sequence) : Option (Option PeerId × Sequence) := do
  let targets := sequence.targets
  let closed := { sequence with detected := Vector.ofFn fun place => targets[place]?, index := 0 }
  match ← closed.detected[0]? with
  | some first => return (some first, { closed with phase := .connection })
  | none => return (none, closed)

def guardedTurn (sequence : Sequence) : Option (Turn × Sequence) := do
  let index ← Guarded.bump sequence.index
  let moved := { sequence with index }
  let target ← if moved.index < moved.count then moved.detected[moved.index]? else some none
  match target with
  | some peer => return (.next peer, moved)
  | none =>
    let passes ← Guarded.bump moved.passes
    let ended := { moved with passes }
    return (if ended.passes ≥ maxPasses then .giveUp else .scanAgain, ended)

variable {sequence : Sequence}

theorem guardedNote_eq (room : sequence.count < 255) (rank : Nat) (peer : PeerId) :
    sequence.guardedNote rank peer = some (sequence.note rank peer) := by
  unfold guardedNote note
  by_cases inside : rank < capacity
  · rw [dif_pos inside, Vector.getElem?_eq_getElem inside]
    cases sequence.detected[rank] with
    | none => simp [Guarded.write_eq inside, Guarded.bump_eq room]
    | some other => rfl
  · rw [dif_neg inside, Vector.getElem?_eq_none (Nat.not_lt.1 inside)]

theorem guardedCloseScan_eq (sequence : Sequence) :
    sequence.guardedCloseScan = some sequence.closeScan := by
  unfold guardedCloseScan closeScan
  cases sequence.targets <;> simp

theorem guardedTurn_eq (index : sequence.index < 255) (count : sequence.count ≤ capacity)
    (passes : sequence.passes < 255) : sequence.guardedTurn = some sequence.turn := by
  unfold guardedTurn turn
  simp only [Guarded.bump_eq index, Guarded.bump_eq passes, Option.bind_eq_bind, Option.bind_some]
  by_cases more : sequence.index + 1 < sequence.count
  · have inside : sequence.index + 1 < capacity := Nat.lt_of_lt_of_le more count
    simp only [if_pos more, Vector.getElem?_eq_getElem inside, Option.bind_some, Option.join_some]
    cases sequence.detected[sequence.index + 1] <;> rfl
  · simp only [if_neg more]
    rfl

end Sequence

/-! ## The whitelist -/

/-- Takes a peer off a whitelist, at the place where it is found. -/
def guardedStrike (whitelist : List PeerId) (peer : PeerId) : Option (List PeerId) :=
  match whitelist.idxOf? peer with
  | some place => if place < whitelist.length then some (whitelist.eraseIdx place) else none
  | none => some whitelist

theorem guardedStrike_eq (whitelist : List PeerId) (peer : PeerId) :
    guardedStrike whitelist peer = some (whitelist.erase peer) := by
  rw [guardedStrike, List.erase_eq_eraseIdx]
  cases found : whitelist.idxOf? peer with
  | none => rfl
  | some place =>
    rw [List.idxOf?_eq_some_iff] at found
    exact if_pos found.1

/-! ## The budget of saves -/

def SaveBudget.guardedCount (budget : SaveBudget) :
    Except StorageError Unit → Option (SaveVerdict × SaveBudget)
  | .ok () => some (.done, ⟨0⟩)
  | .error error => do
    let failures ← Guarded.bump budget.failures
    if failures ≥ storageTries then
      return (.giveUp error, ⟨0⟩)
    else
      return (match error with
        | .noSpace => .collect
        | .busy | .io => .retry,
      ⟨failures⟩)

theorem SaveBudget.guardedCount_eq {budget : SaveBudget} (room : budget.failures < 255)
    (result : Except StorageError Unit) :
    budget.guardedCount result = some (budget.count result) := by
  cases result with
  | ok done => rfl
  | error error =>
    simp only [guardedCount, count, Guarded.bump_eq room, Option.bind_eq_bind, Option.bind_some]
    split <;> rfl

/-! ## The registry of bonds -/

namespace BondTable

/-- Whether a place of the registry is taken. -/
def guardedTaken (table : BondTable) (place : Nat) : Option Bool :=
  table.slots[place]?.map Option.isSome

def guardedNext (table : BondTable) (after : Option PeerId) : Option (Option PeerId) := do
  let start := match after with
    | none => 0
    | some peer => peer.raw.toNat + 1
  let place ← (List.range' start (capacity - start)).findM? table.guardedTaken
  return place.bind fun place => PeerId.ofRaw? (UInt8.ofNat place)

def guardedKeep (table : BondTable) (bond : Bond) : Option (Option PeerId × BondTable) :=
  let held := table.slots.toList.findIdx?
    (·.any fun held => held.master == bond.master || held.identity.isMatch bond.identity.address)
  match held.or (table.slots.toList.findIdx? (·.isNone)) with
  | some place => do
    let slots ← Guarded.write table.slots place (some bond)
    return (PeerId.ofRaw? (UInt8.ofNat place), ⟨slots⟩)
  | none => some (none, table)

theorem guardedTaken_eq (table : BondTable) (slot : Fin capacity) :
    table.guardedTaken slot.val = some (table.slots.get slot).isSome := by
  rw [guardedTaken, Vector.getElem?_eq_getElem slot.isLt]
  rfl

theorem findM?_guardedTaken (table : BondTable) (slots : List (Fin capacity)) :
    (slots.map Fin.val).findM? table.guardedTaken =
      some ((slots.find? fun slot => (table.slots.get slot).isSome).map Fin.val) := by
  induction slots with
  | nil => rfl
  | cons slot slots ih =>
    rw [List.map_cons, List.findM?, guardedTaken_eq, List.find?_cons]
    simp only [Option.bind_eq_bind, Option.bind_some, ih]
    cases (table.slots.get slot).isSome <;> rfl

/-- The places from one on are those of the slots. -/
theorem range'_eq_map (start : Nat) :
    List.range' start (capacity - start) =
      ((List.finRange capacity).filter (start ≤ ·.val)).map Fin.val := by
  by_cases few : start < capacity
  · revert start
    decide
  · have beyond : ∀ slot ∈ List.finRange capacity, ¬decide (start ≤ slot.val) = true := by
      intro slot _
      have inside := slot.isLt
      rw [decide_eq_true_iff]
      omega
    rw [List.filter_eq_nil_iff.2 beyond, Nat.sub_eq_zero_of_le (Nat.not_lt.1 few)]
    rfl

theorem ofRaw?_ofNat (slot : Fin capacity) :
    PeerId.ofRaw? (UInt8.ofNat slot.val) = some (peerOf slot) :=
  PeerId.ofRaw?_raw (peerOf slot)

theorem guardedNext_eq (table : BondTable) (after : Option PeerId) :
    table.guardedNext after = some (table.next? after) := by
  simp only [guardedNext, next?, range'_eq_map, findM?_guardedTaken, Option.bind_eq_bind,
    Option.bind_some, List.find?_filter, Bool.decide_and, Bool.decide_eq_true]
  generalize found : List.find? _ (List.finRange capacity) = slot
  cases slot with
  | none => rfl
  | some slot => simp [ofRaw?_ofNat]

theorem findIdx?_toList (table : BondTable) (test : Option Bond → Bool) :
    table.slots.toList.findIdx? test = (table.slots.findFinIdx? test).map Fin.val := by
  rw [List.findIdx?_eq_map_findFinIdx?_val, Vector.findFinIdx?_toList, Option.map_map]
  rfl

theorem guardedKeep_eq (table : BondTable) (bond : Bond) :
    table.guardedKeep bond = some (table.keep bond) := by
  rw [guardedKeep, keep, slotFor?, slotOf?, findIdx?_toList, findIdx?_toList, ← Option.map_or]
  generalize Option.or _ _ = found
  cases found with
  | none => rfl
  | some slot => simp [Guarded.write_eq slot.isLt, ofRaw?_ofNat]

end BondTable

end BondedMouse
