import BondedMouse.Storage.Flash
import BondedMouse.Storage.Record

/-! # The record cache

The record store of the device is a cache in memory of up to four records of up to 32
bytes.  Writes only mark a record as dirty; `save` brings the dirty ones to flash.  A
garbage collection erases the region before that and writes all of them.
-/

namespace BondedMouse

structure CachedRecord where
  key : UInt16
  bytes : List UInt8
  /-- The record has not reached flash. -/
  dirty : Bool
  deriving DecidableEq

structure RecordCache where
  records : List CachedRecord
  /-- The next save erases the region first. -/
  collectRequested : Bool
  deriving DecidableEq

namespace RecordCache

def capacity : Nat := 4

def recordCapacity : Nat := 32

def empty : RecordCache := ⟨[], false⟩

def find? (cache : RecordCache) (key : UInt16) : Option CachedRecord :=
  cache.records.find? (·.key == key)

/-! ## Loading -/

section Loading

variable {φ : Type} [Flash φ]

/-- Adds a record, unless it is too long or the cache is full. -/
def accept (cache : RecordCache) (key : UInt16) (bytes : List UInt8) : RecordCache :=
  if bytes.length ≤ recordCapacity ∧ cache.records.length < capacity then
    { cache with records := cache.records ++ [⟨key, bytes, false⟩] }
  else
    cache

/-- Adds the record of a key, unless it cannot be read or there is none. -/
def loadKey (cache : RecordCache) (key : UInt16) (flash : φ) : RecordCache × φ :=
  match Flash.fetch key flash with
  | (.ok (some bytes), flash) => (cache.accept key bytes, flash)
  | (.ok none, flash) | (.error _, flash) => (cache, flash)

def loadKeys : List UInt16 → RecordCache → φ → RecordCache × φ
  | [], cache, flash => (cache, flash)
  | key :: rest, cache, flash =>
    let (cache, flash) := cache.loadKey key flash
    loadKeys rest cache flash

/-- Reads the records of some keys from flash, in place of all that is cached. -/
def load (cache : RecordCache) (keys : List UInt16) (flash : φ) : RecordCache × φ :=
  loadKeys keys { cache with records := [] } flash

end Loading

/-! ## The record store -/

def read (key : UInt16) (room : Nat) (cache : RecordCache) :
    Except StorageError (Option Reading) × RecordCache :=
  let result := match cache.find? key with
    | none => .ok none
    | some record =>
      if record.bytes.length ≤ room then .ok (some ⟨record.bytes.length, record.bytes⟩)
      else .error .noSpace
  (result, cache)

/-- Replaces the bytes of the first record with a key. -/
def replace (key : UInt16) (bytes : List UInt8) : List CachedRecord → List CachedRecord
  | [] => []
  | record :: rest =>
    if record.key = key then { record with bytes, dirty := true } :: rest
    else record :: replace key bytes rest

def write (key : UInt16) (bytes : List UInt8) (cache : RecordCache) :
    Except StorageError Unit × RecordCache :=
  if recordCapacity < bytes.length then
    (.error .noSpace, cache)
  else if (cache.find? key).isSome then
    (.ok (), { cache with records := replace key bytes cache.records })
  else if cache.records.length < capacity then
    (.ok (), { cache with records := cache.records ++ [⟨key, bytes, true⟩] })
  else
    (.error .noSpace, cache)

/-- Requests a garbage collection, of which there can be one at a time. -/
def reclaim (cache : RecordCache) : Except StorageError Unit × RecordCache :=
  if cache.collectRequested then (.error .busy, cache)
  else (.ok (), { cache with collectRequested := true })

instance : RecordStore RecordCache where
  read := read
  write := write
  reclaim := reclaim

/-! ## Saving -/

/-- A save would touch the flash. -/
def needsSave (cache : RecordCache) : Bool :=
  cache.collectRequested || cache.records.any (·.dirty)

section Saving

variable {φ : Type} [Flash φ]

/-- What a refusal of the flash means to the store. -/
def storageError : FlashError → StorageError
  | .full => .noSpace
  | .failed => .io

def saveRecord (record : CachedRecord) (flash : φ) :
    Except StorageError Unit × CachedRecord × φ :=
  match Flash.store record.key record.bytes flash with
  | (.ok (), flash) => (.ok (), { record with dirty := false }, flash)
  | (.error error, flash) => (.error (storageError error), record, flash)

/-- Brings the dirty records of a list to flash, each tried once.  The result is that of the last
one that failed, or else the given one. -/
def saveRecords : List CachedRecord → Except StorageError Unit → φ →
    Except StorageError Unit × List CachedRecord × φ
  | [], result, flash => (result, [], flash)
  | record :: rest, result, flash =>
    if record.dirty then
      let (tried, record, flash) := saveRecord record flash
      let (result, saved, flash) := saveRecords rest (tried.bind fun () => result) flash
      (result, record :: saved, flash)
    else
      let (result, saved, flash) := saveRecords rest result flash
      (result, record :: saved, flash)

/-- Brings every dirty record to flash, after a garbage collection if one is requested. -/
def save (cache : RecordCache) (flash : φ) : Except StorageError Unit × RecordCache × φ :=
  if cache.collectRequested then
    match Flash.eraseAll flash with
    | (.error _, flash) => (.error .io, cache, flash)
    | (.ok (), flash) =>
      let marked := cache.records.map fun record => { record with dirty := true }
      let (result, records, flash) := saveRecords marked (.ok ()) flash
      (result, ⟨records, false⟩, flash)
  else
    let (result, records, flash) := saveRecords cache.records (.ok ()) flash
    (result, { cache with records }, flash)

end Saving

/-- Forgets what is pending; the cache keeps its contents. -/
def dropPending (cache : RecordCache) : RecordCache :=
  ⟨cache.records.map fun record => { record with dirty := false }, false⟩

end RecordCache

end BondedMouse
