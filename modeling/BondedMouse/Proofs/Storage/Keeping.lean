import BondedMouse.Storage.Cache

/-! # Stores that keep their records

A store keeps its records if it reads back what was last written successfully under a
key, and if nothing else changes what it holds: not a read, not a write that failed, not
a write under another key and not a garbage collection.  The record cache of the device
is such a store.
-/

namespace BondedMouse

class KeepsRecords (σ : Type) [RecordStore σ] where
  /-- The bytes that were last written under a key. -/
  record? : UInt16 → σ → Option (List UInt8)
  /-- A record that fits is read whole. -/
  read_whole : ∀ {key room store bytes}, record? key store = some bytes → bytes.length ≤ room →
    (RecordStore.read key room store).1 = .ok (some ⟨bytes.length, bytes⟩)
  /-- What is read is the record, or as much of it as fits. -/
  read_sound : ∀ {key room store reading}, (RecordStore.read key room store).1 = .ok (some reading) →
    ∃ bytes, record? key store = some bytes ∧ reading = ⟨bytes.length, bytes.take room⟩
  record?_read : ∀ key other room store,
    record? other (RecordStore.read key room store).2 = record? other store
  record?_write : ∀ {key other bytes store}, (RecordStore.write key bytes store).1 = .ok () →
    record? other (RecordStore.write key bytes store).2 =
      if other = key then some bytes else record? other store
  record?_failed : ∀ {key other bytes store error},
    (RecordStore.write key bytes store).1 = .error error →
    record? other (RecordStore.write key bytes store).2 = record? other store
  record?_reclaim : ∀ key store, record? key (RecordStore.reclaim store).2 = record? key store

namespace RecordCache

/-- The bytes of the record under a key. -/
def bytes? (key : UInt16) (cache : RecordCache) : Option (List UInt8) :=
  (cache.find? key).map CachedRecord.bytes

theorem find?_replaced {key : UInt16} (other : UInt16) (bytes : List UInt8)
    {records : List CachedRecord} (held : (records.find? (·.key == key)).isSome) :
    (replace key bytes records).find? (·.key == other) =
      if other = key then some ⟨key, bytes, true⟩ else records.find? (·.key == other) := by
  induction records with
  | nil => simp at held
  | cons record rest ih =>
    by_cases own : record.key = key
    · subst own
      by_cases same : other = record.key
      · simp [replace, same]
      · simp [replace, same, Ne.symm same]
    · -- The first record is another's, so the one that is replaced comes behind it.
      have behind := ih (by simpa [own] using held)
      by_cases found : record.key = other
      · subst found
        simp [replace, own]
      · simpa [replace, own, found] using behind

/-- All that a write can do. -/
inductive Writes (key : UInt16) (bytes : List UInt8) (cache : RecordCache) :
    Except StorageError Unit × RecordCache → Prop
  | refused : Writes key bytes cache (.error .noSpace, cache)
  | replaced (fits : bytes.length ≤ recordCapacity) (held : (cache.find? key).isSome) :
      Writes key bytes cache (.ok (), { cache with records := replace key bytes cache.records })
  | added (fits : bytes.length ≤ recordCapacity) (absent : cache.find? key = none)
      (room : cache.records.length < capacity) :
      Writes key bytes cache
        (.ok (), { cache with records := cache.records ++ [⟨key, bytes, true⟩] })

theorem write_writes (key : UInt16) (bytes : List UInt8) (cache : RecordCache) :
    Writes key bytes cache (write key bytes cache) := by
  unfold write
  split
  · exact .refused
  · next fits =>
    have fits := Nat.le_of_not_lt fits
    split
    · next held => exact .replaced fits held
    · next absent =>
      split
      · next room => exact .added fits (by simpa using absent) room
      · exact .refused

/-- A write that succeeds leaves a dirty record under its key, and nothing else is touched. -/
theorem Writes.find? {key : UInt16} {bytes : List UInt8} {cache after : RecordCache}
    (writes : Writes key bytes cache (.ok (), after)) (other : UInt16) :
    after.find? other = if other = key then some ⟨key, bytes, true⟩ else cache.find? other := by
  cases writes with
  | replaced fits held => exact find?_replaced other bytes held
  | added fits absent room =>
    change List.find? _ (cache.records ++ _) = _
    change List.find? _ cache.records = _ at absent
    by_cases same : other = key
    · simp [same, absent]
    · simp [same, Ne.symm same, RecordCache.find?]

theorem bytes?_write {key other : UInt16} {bytes : List UInt8} {cache : RecordCache}
    (written : (write key bytes cache).1 = .ok ()) :
    bytes? other (write key bytes cache).2 =
      if other = key then some bytes else bytes? other cache := by
  have writes := write_writes key bytes cache
  generalize write key bytes cache = result at written writes
  obtain ⟨_, after⟩ := result
  subst written
  rw [bytes?, writes.find? other]
  split <;> rfl

/-- A write that fails leaves the cache as it was. -/
theorem write_failed {key : UInt16} {bytes : List UInt8} {cache : RecordCache}
    {error : StorageError} (failed : (write key bytes cache).1 = .error error) :
    (write key bytes cache).2 = cache := by
  have writes := write_writes key bytes cache
  generalize write key bytes cache = result at failed writes
  cases writes with
  | refused => rfl
  | replaced | added => cases failed

instance : KeepsRecords RecordCache where
  record? := bytes?
  read_whole := by
    intro key room cache bytes held fits
    obtain ⟨record, found, rfl⟩ := Option.map_eq_some_iff.1 held
    show (read key room cache).1 = _
    simp [read, found, fits]
  read_sound := by
    intro key room cache reading read
    change (RecordCache.read key room cache).1 = _ at read
    simp only [RecordCache.read] at read
    split at read
    · cases read
    · next record found =>
      split at read
      · next fits =>
        cases read
        exact ⟨record.bytes, by simp [bytes?, found], by rw [List.take_of_length_le fits]⟩
      · cases read
  record?_read key other room cache := rfl
  record?_write := bytes?_write
  record?_failed := by
    intro key other bytes cache error failed
    exact congrArg (bytes? other) (write_failed failed)
  record?_reclaim key cache := by
    show bytes? key (reclaim cache).2 = bytes? key cache
    unfold reclaim
    split <;> rfl

end RecordCache

end BondedMouse
