import BondedMouse.Proofs.Bounds.Rankings
import BondedMouse.Proofs.Ranking.Codec
import Mathlib.Data.List.Nodup

/-! # Guarded access to the records of rankings

A record is written and read by slices of fixed arrays.  Whatever bytes are read, none of
the slices leaves its array: the number of used slots bounds them all.
-/

namespace BondedMouse.Ranking

/-! ## Writing a record -/

def guardedEncode (ranking : Ranking) : Option (List UInt8) := do
  let record ← Guarded.fill (List.replicate Record.length 0) 0 capacity
    (ranking.slots.toList.map PeerId.slotByte)
  Guarded.fill record capacity Record.length Record.markBytes

theorem guardedEncode_eq (ranking : Ranking) : ranking.guardedEncode = some ranking.encode := by
  simp [guardedEncode, Guarded.fill, encode, Record.length, Record.markBytes]

/-! ## Reading a record -/

/-- A byte in front of a place stands once more behind its own. -/
def guardedRepeats (bytes : List UInt8) (stop : Nat) : List Nat → Option Bool
  | [] => some false
  | place :: places => do
    let behind ← Guarded.slice bytes (place + 1) stop
    let byte ← bytes[place]?
    if behind.contains byte then return true else guardedRepeats bytes stop places

/-- The ranking whose slots the bytes are. -/
def guardedSlots (bytes : Vector UInt8 capacity) : Option (Option Ranking) := do
  let used := bytes.toList.findIdx (· == PeerId.free)
  let unused ← Guarded.slice bytes.toList used capacity
  if unused.any (· != PeerId.free) then return none
  else if ← guardedRepeats bytes.toList used (List.range used) then return none
  else return some ⟨bytes.map PeerId.ofRaw?⟩

def guardedDecode (record : List UInt8) : Option (Option Ranking) :=
  if record.length = Record.length then do
    let entries ← Guarded.slice record 0 capacity
    let mark ← Guarded.slice record capacity record.length
    if mark = Record.markBytes then guardedSlots (← Guarded.ofSlice entries)
    else return none
  else
    some none

theorem ofRaw?_beq_none (byte : UInt8) :
    (PeerId.ofRaw? byte == none) = (byte == PeerId.free) := by
  unfold PeerId.ofRaw?
  split
  · next taken => simpa using taken
  · next free => simpa using free

theorem findIdx_free (bytes : List UInt8) :
    bytes.findIdx (· == PeerId.free) = (leading (bytes.map PeerId.ofRaw?)).length := by
  rw [length_leading, List.findIdx_map]
  simp only [Function.comp_def, ofRaw?_beq_none]

/-- The peers of the leading slots are the bytes up to the first free one. -/
theorem take_findIdx_free (bytes : List UInt8) :
    bytes.take (bytes.findIdx (· == PeerId.free)) =
      (leading (bytes.map PeerId.ofRaw?)).map PeerId.raw := by
  have taken := congrArg (List.map PeerId.slotByte) (take_leading (bytes.map PeerId.ofRaw?))
  rw [List.map_take, map_slotByte_ofRaw?, ← findIdx_free, List.map_map] at taken
  exact taken

theorem any_unused (bytes : List UInt8) :
    (bytes.drop (bytes.findIdx (· == PeerId.free))).any (· != PeerId.free) =
      !compact (bytes.map PeerId.ofRaw?) := by
  rw [compact, ← findIdx_free, ← List.map_drop, List.all_map, List.any_eq_not_all_not]
  simp only [Function.comp_def, ofRaw?_beq_none, bne, Bool.not_not]

/-- A row has no repeats if no item stands again behind its place. -/
theorem nodup_iff_drop {α : Type} {items : List α} :
    items.Nodup ↔ ∀ place item, items[place]? = some item → item ∉ items.drop (place + 1) := by
  induction items with
  | nil => simp
  | cons first rest ih =>
    rw [List.nodup_cons, ih]
    constructor
    · rintro ⟨single, distinct⟩ place item found
      cases place with
      | zero =>
        obtain rfl : first = item := by simpa using found
        exact single
      | succ place => exact distinct place item found
    · intro distinct
      exact ⟨distinct 0 first rfl, fun place item found => distinct (place + 1) item found⟩

theorem guardedRepeats_eq {bytes : List UInt8} {stop : Nat} (inside : stop ≤ bytes.length)
    {places : List Nat} (before : ∀ place ∈ places, place < stop) :
    guardedRepeats bytes stop places = some (places.any fun place =>
      bytes[place]?.any ((bytes.take stop).drop (place + 1)).contains) := by
  induction places with
  | nil => rfl
  | cons place places ih =>
    have here : place + 1 ≤ stop := before place List.mem_cons_self
    have byte := List.getElem?_eq_getElem (Nat.lt_of_lt_of_le here inside)
    have rest := ih fun place member => before place (List.mem_cons_of_mem _ member)
    rw [guardedRepeats, Guarded.slice_eq here inside, byte, List.any_cons, byte]
    simp only [Option.bind_eq_bind, Option.bind_some, Option.any_some, rest]
    split
    · next again =>
      rw [again, Bool.true_or]
      rfl
    · next once => rw [Bool.eq_false_iff.2 once, Bool.false_or]

theorem guardedRepeats_range {bytes : List UInt8} {stop : Nat} (inside : stop ≤ bytes.length) :
    guardedRepeats bytes stop (List.range stop) = some (!decide (bytes.take stop).Nodup) := by
  rw [guardedRepeats_eq inside fun place => List.mem_range.1]
  congr 1
  rw [Bool.eq_iff_iff, List.any_eq_true, Bool.not_eq_true', decide_eq_false_iff_not,
    nodup_iff_drop]
  constructor
  · rintro ⟨place, before, again⟩ distinct
    rw [List.mem_range] at before
    have byte := List.getElem?_eq_getElem (Nat.lt_of_lt_of_le before inside)
    rw [byte, Option.any_some, List.contains_iff_mem] at again
    rw [← List.getElem?_take_of_lt before] at byte
    exact distinct place _ byte again
  · intro repeated
    simp only [Classical.not_forall, Classical.not_not] at repeated
    obtain ⟨place, byte, found, again⟩ := repeated
    have before : place < stop :=
      Nat.lt_of_lt_of_le (List.getElem?_eq_some_iff.1 found).1 (List.length_take_le _ _)
    rw [List.getElem?_take_of_lt before] at found
    refine ⟨place, List.mem_range.2 before, ?_⟩
    rwa [found, Option.any_some, List.contains_iff_mem]

theorem raw_injective : Function.Injective PeerId.raw := by
  rintro ⟨left, _⟩ ⟨right, _⟩ same
  cases same
  rfl

theorem guardedSlots_eq (bytes : Vector UInt8 capacity) :
    guardedSlots bytes =
      some (if compact (bytes.map PeerId.ofRaw?).toList ∧
          (leading (bytes.map PeerId.ofRaw?).toList).Nodup then
        some ⟨bytes.map PeerId.ofRaw?⟩
      else none) := by
  have length : bytes.toList.length = capacity := Vector.length_toList
  have used : bytes.toList.findIdx (· == PeerId.free) ≤ bytes.toList.length :=
    List.findIdx_le_length
  have distinct : (bytes.toList.take (bytes.toList.findIdx (· == PeerId.free))).Nodup ↔
      (leading (bytes.map PeerId.ofRaw?).toList).Nodup := by
    rw [take_findIdx_free, Vector.toList_map]
    exact List.nodup_map_iff raw_injective
  have unused := any_unused bytes.toList
  rw [← Vector.toList_map] at unused
  rw [guardedSlots, Guarded.slice_eq (Nat.le_trans used (Nat.le_of_eq length))
      (Nat.le_of_eq length.symm),
    List.take_of_length_le (Nat.le_of_eq length), guardedRepeats_range used]
  simp only [Option.bind_eq_bind, Option.bind_some, unused, distinct]
  cases compact (bytes.map PeerId.ofRaw?).toList with
  | false => rfl
  | true => by_cases single : (leading (bytes.map PeerId.ofRaw?).toList).Nodup <;> simp [single]

theorem guardedDecode_eq (record : List UInt8) : guardedDecode record = some (decode? record) := by
  by_cases whole : record.length = Record.length
  · have first : capacity ≤ record.length := by simp [whole, Record.length]
    have entries : (record.take capacity).length = capacity := List.length_take_of_le first
    simp only [guardedDecode, decode?, if_pos whole, dif_pos whole,
      Guarded.slice_eq (Nat.zero_le _) first, Guarded.slice_eq first (Nat.le_refl _),
      List.drop_zero, List.take_length, Option.bind_eq_bind, Option.bind_some, Guarded.ofSlice,
      dif_pos entries, guardedSlots_eq]
    have mapped : Vector.map PeerId.ofRaw? ⟨(record.take capacity).toArray, entries⟩ =
        (⟨((record.take capacity).map PeerId.ofRaw?).toArray, by simp [Nat.min_eq_left first]⟩ :
          Vector (Option PeerId) capacity) := by simp
    rw [mapped]
    split
    · simp [*]
    · simp [*]
  · simp [guardedDecode, decode?, whole]

/-! ## The store -/

section Store

variable {ε : Type} [RecordStore ε]

def guardedPersist (ranking : Ranking) (env : ε) : Option (Except StorageError Unit × ε) := do
  let record ← ranking.guardedEncode
  return RecordStore.write Record.key record env

theorem guardedPersist_eq (ranking : Ranking) (env : ε) :
    ranking.guardedPersist env = some (ranking.persist env) := by
  rw [guardedPersist, guardedEncode_eq]
  rfl

def guardedReading (reading : Reading) : Option (Option Ranking) :=
  if reading.length ≤ Record.room then guardedDecode (reading.bytes.take reading.length)
  else some none

theorem guardedReading_eq (reading : Reading) :
    guardedReading reading = some (ofReading? reading) := by
  unfold guardedReading ofReading?
  split
  · exact guardedDecode_eq _
  · rfl

def guardedRestore (ranking : Ranking) (env : ε) :
    Option (Except StorageError Bool × Ranking × ε) :=
  match RecordStore.read Record.key Record.room env with
  | (.error error, env) => some (.error error, ranking, env)
  | (.ok none, env) => some (.ok false, ranking, env)
  | (.ok (some reading), env) => do
    match ← guardedReading reading with
    | some stored => return (.ok true, stored, env)
    | none => return (.ok false, ranking, env)

theorem guardedRestore_eq (ranking : Ranking) (env : ε) :
    ranking.guardedRestore env = some (ranking.restore env) := by
  unfold guardedRestore restore
  split
  · next error env read => rw [read]
  · next env read =>
    rw [read]
    rfl
  · next reading env read =>
    rw [read, guardedReading_eq]
    simp only [Option.bind_eq_bind, Option.bind_some]
    cases ofReading? reading <;> rfl

end Store

end BondedMouse.Ranking
