import BondedMouse.Proofs.Ranking.Order
import BondedMouse.Ranking.Pool

/-! # Guarded access to the slots of a ranking

An array of the device has a fixed number of places, and a counter of a byte has room for
255.  `Guarded` has the ways to use them, each with its guard: an access beyond the last
place has no value, nor has the step of a full counter.

The operations on rankings are told once more by such accesses, place by place.  They have
a value for every ranking, every peer and every row of bytes, and it is the value that the
operations yield.
-/

namespace BondedMouse

/-! ## Guards -/

namespace Guarded

variable {α : Type} {size : Nat}

/-- The next value of a counter of a byte. -/
def bump (count : Nat) : Option Nat :=
  if count < 255 then some (count + 1) else none

def minus (whole part : Nat) : Option Nat :=
  if part ≤ whole then some (whole - part) else none

def write (slots : Vector α size) (place : Nat) (value : α) : Option (Vector α size) :=
  if inside : place < size then some (slots.set place value inside) else none

/-- Moves the first slots to begin at another place. -/
def moveFirst (slots : Vector α size) (count start : Nat) : Option (Vector α size) :=
  if count ≤ size ∧ start + count ≤ size then
    some (Vector.ofFn fun place =>
      if start ≤ place.val ∧ place.val < start + count then
        slots.get ⟨place.val - start, Nat.lt_of_le_of_lt (Nat.sub_le _ _) place.isLt⟩
      else
        slots.get place)
  else
    none

/-- The items from one place up to another. -/
def slice (items : List α) (start stop : Nat) : Option (List α) :=
  if start ≤ stop ∧ stop ≤ items.length then some ((items.take stop).drop start) else none

/-- Copies as many values over the items from one place up to another. -/
def fill (items : List α) (start stop : Nat) (values : List α) : Option (List α) :=
  if start ≤ stop ∧ stop ≤ items.length ∧ values.length = stop - start then
    some (items.take start ++ values ++ items.drop stop)
  else
    none

/-- The array that a slice of the same length is copied to. -/
def ofSlice (items : List α) : Option (Vector α size) :=
  if same : items.length = size then some ⟨items.toArray, List.size_toArray.trans same⟩
  else none

/-- The items, if there is room for them. -/
def collect (items : List α) (room : Nat) : Option (List α) :=
  if items.length ≤ room then some items else none

theorem bump_eq {count : Nat} (room : count < 255) : bump count = some (count + 1) :=
  if_pos room

theorem minus_eq {whole part : Nat} (within : part ≤ whole) :
    minus whole part = some (whole - part) :=
  if_pos within

theorem write_eq {place : Nat} (inside : place < size) (slots : Vector α size) (value : α) :
    write slots place value = some (slots.set place value inside) :=
  dif_pos inside

theorem collect_eq {items : List α} {room : Nat} (fits : items.length ≤ room) :
    collect items room = some items :=
  if_pos fits

theorem slice_eq {items : List α} {start stop : Nat} (ordered : start ≤ stop)
    (inside : stop ≤ items.length) :
    slice items start stop = some ((items.take stop).drop start) :=
  if_pos ⟨ordered, inside⟩

end Guarded

namespace Ranking

/-! ## Insertions -/

def guardedInsert (ranking : Ranking) (peer : PeerId) : Option (Insertion × Ranking) := do
  let place := (ranking.rankOf? peer).getD (capacity - 1)
  let first ← ranking.slots[0]?
  if place = 0 ∧ first = some peer then
    return (.unchanged, ranking)
  else
    let old ← ranking.slots[place]?
    let moved ← Guarded.moveFirst ranking.slots place 1
    let slots ← Guarded.write moved 0 (some peer)
    match old.filter (· ≠ peer) with
    | some other => return (.evicted other, ⟨slots⟩)
    | none => return (.promoted, ⟨slots⟩)

theorem rankOf?_eq_finIdxOf? (ranking : Ranking) (peer : PeerId) :
    ranking.rankOf? peer = (ranking.slots.finIdxOf? (some peer)).map Fin.val := by
  rw [rankOf?, List.idxOf?_eq_map_finIdxOf?_val, Vector.finIdxOf?_toList]
  cases ranking.slots.finIdxOf? (some peer) <;> rfl

theorem rankOf?_lt {ranking : Ranking} {peer : PeerId} {rank : Nat}
    (ranked : ranking.rankOf? peer = some rank) : rank < capacity := by
  rw [rankOf?_eq_finIdxOf?, Option.map_eq_some_iff] at ranked
  obtain ⟨index, -, rfl⟩ := ranked
  exact index.isLt

theorem rankOf?_getD (ranking : Ranking) (peer : PeerId) :
    (ranking.rankOf? peer).getD (capacity - 1) = (ranking.depthFor peer).val := by
  rw [rankOf?_eq_finIdxOf?, depthFor]
  cases ranking.slots.finIdxOf? (some peer) <;> rfl

/-- The peer in the first slot is found there. -/
theorem depthFor_first {ranking : Ranking} {peer : PeerId}
    (first : ranking.slots[0]? = some (some peer)) : (ranking.depthFor peer).val = 0 := by
  rw [← Vector.getElem?_toList] at first
  rw [← rankOf?_getD, rankOf?]
  cases listed : ranking.slots.toList with
  | nil => simp [listed] at first
  | cons slot slots =>
    obtain rfl : slot = some peer := by simpa [listed] using first
    simp [List.idxOf?_cons]

/-- The slots down to a depth are moved back by one, and the first is overwritten. -/
theorem moveFirst_write (ranking : Ranking) (peer : PeerId) (depth : Fin capacity) :
    ((Guarded.moveFirst ranking.slots depth.val 1).bind fun moved =>
      Guarded.write moved 0 (some peer)) = some (ranking.pushFront peer depth).slots := by
  have deep := depth.isLt
  have room : depth.val ≤ capacity ∧ 1 + depth.val ≤ capacity := by omega
  have some : 0 < capacity := by decide
  rw [Guarded.moveFirst, if_pos room, Option.bind_some, Guarded.write_eq some]
  refine congrArg Option.some (Vector.ext fun rank inside => ?_)
  rw [Vector.getElem_set, pushFront, Vector.getElem_ofFn, Vector.getElem_ofFn]
  cases rank with
  | zero => rfl
  | succ rank =>
    have front : (⟨rank + 1, inside⟩ : Fin capacity) ≠ 0 := by simp [Fin.ext_iff]
    have moved : (1 ≤ rank + 1 ∧ rank + 1 < 1 + depth.val) ↔
        (⟨rank + 1, inside⟩ : Fin capacity) ≤ depth := by
      change _ ↔ rank + 1 ≤ depth.val
      omega
    rw [if_neg (Nat.succ_ne_zero rank).symm, if_neg front]
    simp only [moved]
    rfl

theorem guardedInsert_eq (ranking : Ranking) (peer : PeerId) :
    ranking.guardedInsert peer = some (ranking.insert peer) := by
  have front : ranking.slots[0]? = some ranking.slots[0] := rfl
  have here : ranking.slots[(ranking.depthFor peer).val]? =
      some ranking.slots[ranking.depthFor peer] :=
    Vector.getElem?_eq_getElem (ranking.depthFor peer).isLt
  have written := ranking.moveFirst_write peer (ranking.depthFor peer)
  obtain ⟨moved, moves, writes⟩ := Option.bind_eq_some_iff.1 written
  simp only [guardedInsert, rankOf?_getD, front, here, moves, writes, Option.bind_eq_bind,
    Option.bind_some, insert]
  by_cases first : ranking.slots[0] = some peer
  · have place := depthFor_first (front.trans (congrArg some first))
    simp [first, place]
  · rw [if_neg fun both => first both.2, if_neg first]
    cases ranking.slots[ranking.depthFor peer] with
    | none => rfl
    | some old => by_cases same : old = peer <;> simp [Option.filter, same]

/-! ## Dropped peers -/

/-- Writes peers one behind the other, and counts them. -/
def guardedPack (slots : Vector (Option PeerId) capacity) (count : Nat) :
    List PeerId → Option (Vector (Option PeerId) capacity × Nat)
  | [] => some (slots, count)
  | peer :: rest => do
    let slots ← Guarded.write slots count (some peer)
    guardedPack slots (count + 1) rest

def guardedRetain (ranking : Ranking) (keep : PeerId → Bool) : Option (Nat × Ranking) := do
  let (slots, kept) ← guardedPack (Vector.replicate capacity none) 0 (ranking.toList.filter keep)
  let dropped ← Guarded.minus ranking.count kept
  return (dropped, ⟨slots⟩)

theorem set_slots_ofList {peers : List PeerId} (room : peers.length < capacity) (peer : PeerId) :
    (ofList peers).slots.set peers.length (some peer) room = (ofList (peers ++ [peer])).slots := by
  refine Vector.ext fun rank inside => ?_
  simp only [ofList, Vector.getElem_set, Vector.getElem_ofFn, Fin.getElem?_fin,
    List.getElem?_append, List.getElem?_singleton]
  by_cases behind : peers.length = rank
  · simp [behind]
  · rw [if_neg behind]
    split
    · rfl
    · next beyond =>
      rw [if_neg (by omega)]
      exact List.getElem?_eq_none (Nat.not_lt.1 beyond)

theorem guardedPack_eq {front back : List PeerId} (room : (front ++ back).length ≤ capacity) :
    guardedPack (ofList front).slots front.length back =
      some ((ofList (front ++ back)).slots, (front ++ back).length) := by
  induction back generalizing front with
  | nil => simp [guardedPack]
  | cons peer back ih =>
    have more : front.length < capacity := by
      simp at room
      omega
    have packed := @ih (front ++ [peer]) (by simpa using room)
    rw [List.length_append, List.length_singleton, List.append_assoc, List.singleton_append]
      at packed
    rw [guardedPack, Guarded.write_eq more, set_slots_ofList more]
    exact packed

theorem length_leading (slots : List (Option PeerId)) :
    (leading slots).length = slots.findIdx (· == none) := by
  induction slots with
  | nil => rfl
  | cons slot slots ih => cases slot <;> simp [leading, List.findIdx_cons, ih]

theorem length_toList (ranking : Ranking) : ranking.toList.length = ranking.count :=
  length_leading ranking.slots.toList

theorem guardedRetain_eq (ranking : Ranking) (keep : PeerId → Bool) :
    ranking.guardedRetain keep = some (ranking.retain keep) := by
  have kept := List.length_filter_le keep ranking.toList
  have room : (ranking.toList.filter keep).length ≤ capacity :=
    Nat.le_trans kept ranking.length_toList_le
  have packed := @guardedPack_eq [] _ room
  have empty : (ofList []).slots = Vector.replicate capacity none := by decide
  rw [List.nil_append, List.length_nil, empty] at packed
  rw [length_toList] at kept
  rw [guardedRetain, packed]
  exact congrArg (Option.bind · fun dropped => some (dropped, _)) (Guarded.minus_eq kept)

end Ranking

/-! ## The pool -/

namespace RankingPool

def guardedAlloc (pool : RankingPool) : Option (Option (Nat × RankingPool)) :=
  match pool.used.toList.idxOf? false with
  | some index => do
    let used ← Guarded.write pool.used index true
    let rankings ← Guarded.write pool.rankings index .empty
    return some (index, ⟨rankings, used⟩)
  | none => some none

theorem guardedAlloc_eq (pool : RankingPool) :
    pool.guardedAlloc = some (pool.alloc.map fun (slot, after) => (slot.index.val, after)) := by
  rw [guardedAlloc, alloc, List.idxOf?_eq_map_finIdxOf?_val, Vector.finIdxOf?_toList]
  cases pool.used.finIdxOf? false with
  | none => rfl
  | some index =>
    simp [Guarded.write_eq index.isLt]

end RankingPool

end BondedMouse
