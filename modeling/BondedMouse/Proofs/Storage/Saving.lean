import BondedMouse.Proofs.Storage.Keeping
import BondedMouse.Storage.Chip
import Mathlib.Data.List.Nodup

/-! # Regions that keep their items, and saves to them

Each operation of such a region takes its full effect or leaves the items as they were.
A save is then known key by key: `Saved` says what becomes of one record and of the item
under its key, whatever else is in the cache.
-/

namespace BondedMouse

/-- Regions of flash whose operations take full effect or none, whether or not they succeed. -/
class KeepsItems (φ : Type) [Flash φ] where
  /-- The item that was stored last under a key. -/
  item? : UInt16 → φ → Option (List UInt8)
  fetch_sound : ∀ {key flash item}, (Flash.fetch key flash).1 = .ok item → item = item? key flash
  item?_fetch : ∀ key other flash, item? other (Flash.fetch key flash).2 = item? other flash
  item?_store : ∀ {key other bytes flash}, (Flash.store key bytes flash).1 = .ok () →
    item? other (Flash.store key bytes flash).2 = if other = key then some bytes else item? other flash
  item?_unstored : ∀ {key other bytes flash error}, (Flash.store key bytes flash).1 = .error error →
    item? other (Flash.store key bytes flash).2 = item? other flash
  item?_erase : ∀ {key flash}, (Flash.eraseAll flash).1 = .ok () →
    item? key (Flash.eraseAll flash).2 = none
  item?_unerased : ∀ {key flash error}, (Flash.eraseAll flash).1 = .error error →
    item? key (Flash.eraseAll flash).2 = item? key flash

instance : KeepsItems Chip where
  item? key chip := chip.items.get? key
  fetch_sound := by
    intro key chip item fetched
    change (if chip.readFails then _ else _) = _ at fetched
    split at fetched
    · cases fetched
    · exact (Except.ok.inj fetched).symm
  item?_fetch key other chip := rfl
  item?_store := by
    intro key other bytes chip stored
    change (Chip.store key bytes chip).1 = _ at stored
    change (Chip.store key bytes chip).2.items.get? other = _
    unfold Chip.store at stored ⊢
    split
    · next failing => simp [failing] at stored
    · next working =>
      split
      · next filled => simp [working, filled] at stored
      · exact RecordMap.get?_insert chip.items key other bytes
  item?_unstored := by
    intro key other bytes chip error failed
    change (Chip.store key bytes chip).1 = _ at failed
    change (Chip.store key bytes chip).2.items.get? other = _
    unfold Chip.store at failed ⊢
    split
    · rfl
    · next working =>
      split
      · rfl
      · next room => simp [working, room] at failed
  item?_erase := by
    intro key chip erased
    change (Chip.eraseAll chip).1 = _ at erased
    change (Chip.eraseAll chip).2.items.get? key = _
    unfold Chip.eraseAll at erased ⊢
    split
    · next failing => simp [failing] at erased
    · rfl
  item?_unerased := by
    intro key chip error failed
    change (Chip.eraseAll chip).1 = _ at failed
    change (Chip.eraseAll chip).2.items.get? key = _
    unfold Chip.eraseAll at failed ⊢
    split
    · rfl
    · next working => simp [working] at failed

namespace RecordCache

open KeepsItems (item?)

/-! ## Distinct keys -/

/-- A cache that respects its bounds and has no key twice. -/
structure WellFormed (cache : RecordCache) : Prop where
  distinct : (cache.records.map CachedRecord.key).Nodup
  few : cache.records.length ≤ capacity
  short : ∀ {key bytes}, cache.bytes? key = some bytes → bytes.length ≤ recordCapacity

theorem find?_eq_some {cache : RecordCache} {key : UInt16} {record : CachedRecord}
    (found : cache.find? key = some record) : record ∈ cache.records ∧ record.key = key :=
  ⟨List.mem_of_find?_eq_some found, by simpa using List.find?_some found⟩

theorem find?_eq_none {cache : RecordCache} {key : UInt16} :
    cache.find? key = none ↔ key ∉ cache.records.map CachedRecord.key := by
  simp [find?, List.find?_eq_none]

/-- With distinct keys each record is the one that is found under its key. -/
theorem find?_of_mem {cache : RecordCache} (distinct : (cache.records.map CachedRecord.key).Nodup)
    {record : CachedRecord} (held : record ∈ cache.records) :
    cache.find? record.key = some record := by
  cases found : cache.find? record.key with
  | none => exact absurd (List.mem_map_of_mem held) (find?_eq_none.1 found)
  | some other =>
    obtain ⟨held', same⟩ := find?_eq_some found
    rw [List.inj_on_of_nodup_map distinct held' held same]

/-! ## Saves -/

/-- What a save makes of a record and of the item under its key: it was not stored, and both are
as before, or it was, and counts no longer as dirty. -/
inductive Saved (before : Option (List UInt8)) (record : CachedRecord) :
    CachedRecord → Option (List UInt8) → Prop
  | left : Saved before record record before
  | stored (dirty : record.dirty = true) :
      Saved before record { record with dirty := false } (some record.bytes)

theorem Saved.bytes {before item : Option (List UInt8)} {record kept : CachedRecord}
    (saved : Saved before record kept item) : kept.bytes = record.bytes := by
  cases saved <;> rfl

/-- A record that is clean afterwards was clean before, or was stored. -/
theorem Saved.item_of_clean {before item : Option (List UInt8)} {record kept : CachedRecord}
    (saved : Saved before record kept item) (clean : kept.dirty = false) :
    (record.dirty = false ∧ item = before) ∨ item = some record.bytes := by
  cases saved with
  | left => exact .inl ⟨clean, rfl⟩
  | stored dirty => exact .inr rfl

variable {φ : Type} [Flash φ]

/-- What one pass over some records does to them and to the region. -/
structure Passes [KeepsItems φ] (records : List CachedRecord) (flash : φ)
    (saved : List CachedRecord) (after : φ) : Prop where
  keys : saved.map CachedRecord.key = records.map CachedRecord.key
  absent : ∀ {key}, key ∉ records.map CachedRecord.key → item? key after = item? key flash
  held : ∀ {key record}, records.find? (·.key == key) = some record →
    ∃ kept, saved.find? (·.key == key) = some kept ∧
      Saved (item? key flash) record kept (item? key after)

section Records

variable [KeepsItems φ] {records : List CachedRecord} {flash : φ}

theorem Passes.nil (flash : φ) : Passes [] flash [] flash where
  keys := rfl
  absent _ := rfl
  held found := by cases found

/-- A record that changes only its own item, before a pass over the others. -/
theorem Passes.cons {record kept : CachedRecord} {middle after : φ} {saved : List CachedRecord}
    (key : kept.key = record.key)
    (aside : ∀ {other}, other ≠ record.key → item? other middle = item? other flash)
    (own : Saved (item? record.key flash) record kept (item? record.key middle))
    (fresh : record.key ∉ records.map CachedRecord.key) (passes : Passes records middle saved after) :
    Passes (record :: records) flash (kept :: saved) after where
  keys := by simp [key, passes.keys]
  absent := by
    intro other absent
    obtain ⟨different, absent⟩ : other ≠ record.key ∧ other ∉ records.map CachedRecord.key := by
      simpa using absent
    exact (passes.absent absent).trans (aside different)
  held := by
    intro other found held
    by_cases same : record.key = other
    · subst same
      obtain rfl : record = found := by simpa using held
      refine ⟨kept, by simp [key], ?_⟩
      rw [passes.absent fresh]
      exact own
    · have behind : records.find? (·.key == other) = some found := by simpa [same] using held
      obtain ⟨left, located, became⟩ := passes.held behind
      refine ⟨left, by simpa [key, same] using located, ?_⟩
      rwa [← aside (Ne.symm same)]

theorem Passes.of_saveRecord {record : CachedRecord} {saved : List CachedRecord} {after : φ}
    (dirty : record.dirty = true) (fresh : record.key ∉ records.map CachedRecord.key)
    (passes : Passes records (saveRecord record flash).2.2 saved after) :
    Passes (record :: records) flash ((saveRecord record flash).2.1 :: saved) after := by
  unfold saveRecord at passes ⊢
  split at passes
  · next stored middle tried =>
    have fine : (Flash.store record.key record.bytes flash).1 = .ok () := by rw [tried]
    have items (other : UInt16) : KeepsItems.item? other
        (Flash.store record.key record.bytes flash).2 =
          if other = record.key then some record.bytes else KeepsItems.item? other flash :=
      KeepsItems.item?_store fine
    simp only [tried] at items ⊢
    refine .cons rfl (fun different => by rw [items, if_neg different]) ?_ fresh passes
    rw [items, if_pos rfl]
    exact .stored dirty
  · next error middle tried =>
    have failed : (Flash.store record.key record.bytes flash).1 = .error error := by rw [tried]
    have items (other : UInt16) : KeepsItems.item? other
        (Flash.store record.key record.bytes flash).2 = KeepsItems.item? other flash :=
      KeepsItems.item?_unstored failed
    simp only [tried] at items ⊢
    refine .cons rfl (fun _ => items _) ?_ fresh passes
    rw [items]
    exact .left

theorem saveRecords_passes (distinct : (records.map CachedRecord.key).Nodup)
    (result : Except StorageError Unit) (flash : φ) :
    Passes records flash (saveRecords records result flash).2.1
      (saveRecords records result flash).2.2 := by
  induction records generalizing flash result with
  | nil => exact .nil flash
  | cons record rest ih =>
    obtain ⟨fresh, distinct⟩ := List.nodup_cons.1 distinct
    unfold saveRecords
    split
    · next dirty => exact .of_saveRecord dirty fresh (ih distinct _ _)
    · exact .cons rfl (fun _ => rfl) .left fresh (ih distinct _ _)

end Records

/-- A save that reports success has stored every dirty record. -/
theorem saveRecords_clean {records : List CachedRecord} {result : Except StorageError Unit}
    {flash : φ} (done : (saveRecords records result flash).1 = .ok ()) :
    result = .ok () ∧ ∀ record ∈ (saveRecords records result flash).2.1, record.dirty = false := by
  induction records generalizing flash result with
  | nil => exact ⟨done, by simp [saveRecords]⟩
  | cons record rest ih =>
    unfold saveRecords at done ⊢
    split at done
    · next dirty =>
      obtain ⟨passed, clean⟩ := ih done
      have stored : (saveRecord record flash).1 = .ok () := by
        revert passed
        cases (saveRecord record flash).1 with
        | ok value => exact fun _ => rfl
        | error error => exact fun passed => by cases passed
      have washed : (saveRecord record flash).2.1.dirty = false := by
        unfold saveRecord at stored ⊢
        split at stored
        · rfl
        · cases stored
      rw [stored] at passed
      simp only [dirty, if_true]
      exact ⟨passed, List.forall_mem_cons.2 ⟨washed, clean⟩⟩
    · next spotless =>
      obtain ⟨passed, clean⟩ := ih done
      simp only [spotless]
      exact ⟨passed, List.forall_mem_cons.2 ⟨by simpa using spotless, clean⟩⟩

variable [KeepsItems φ]

/-- What a save does: all it can do depends on whether the region is to be erased first, and
whether that succeeds. -/
inductive Saves (cache : RecordCache) (flash : φ) :
    Except StorageError Unit × RecordCache × φ → Prop
  /-- The region could not be erased. -/
  | refused {after : φ} (collect : cache.collectRequested = true)
      (failed : (Flash.eraseAll flash).1.isOk = false)
      (items : ∀ key, item? key after = item? key flash) : Saves cache flash (.error .io, cache, after)
  /-- The region was erased, so every record is to be stored. -/
  | erased {empty after : φ} {result : Except StorageError Unit} {saved : List CachedRecord}
      (collect : cache.collectRequested = true) (done : (Flash.eraseAll flash).1.isOk = true)
      (bare : ∀ key, item? key empty = none)
      (passes : Passes (cache.records.map fun record => { record with dirty := true }) empty saved
        after) (clean : result = .ok () → ∀ record ∈ saved, record.dirty = false) :
      Saves cache flash (result, ⟨saved, false⟩, after)
  | plain {after : φ} {result : Except StorageError Unit} {saved : List CachedRecord}
      (keep : cache.collectRequested = false) (passes : Passes cache.records flash saved after)
      (clean : result = .ok () → ∀ record ∈ saved, record.dirty = false) :
      Saves cache flash (result, ⟨saved, false⟩, after)

theorem save_saves {cache : RecordCache} (distinct : (cache.records.map CachedRecord.key).Nodup)
    (flash : φ) : Saves cache flash (cache.save flash) := by
  unfold save
  split
  · next collect =>
    split
    · next error after erased =>
      have failed : (Flash.eraseAll flash).1 = .error error := by rw [erased]
      refine .refused collect (by rw [failed]; rfl) fun key => ?_
      have kept : KeepsItems.item? key (Flash.eraseAll flash).2 = KeepsItems.item? key flash :=
        KeepsItems.item?_unerased failed
      rwa [erased] at kept
    · next empty erased =>
      have done : (Flash.eraseAll flash).1 = .ok () := by rw [erased]
      refine .erased collect (by rw [done]; rfl) (fun key => ?_) (saveRecords_passes ?_ _ _)
        (fun fine => (saveRecords_clean fine).2)
      · have bare : KeepsItems.item? key (Flash.eraseAll flash).2 = none :=
          KeepsItems.item?_erase done
        rwa [erased] at bare
      · simpa [List.map_map, Function.comp_def] using distinct
  · next keep =>
    have keep := Bool.eq_false_iff.2 keep
    rw [keep]
    exact .plain keep (saveRecords_passes distinct _ _) fun fine => (saveRecords_clean fine).2

end RecordCache

end BondedMouse
