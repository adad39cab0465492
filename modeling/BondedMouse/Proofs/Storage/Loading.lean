import BondedMouse.Proofs.Storage.Saving
import Mathlib.Data.List.Perm.Subperm

/-! # Loading a cache

A load takes the records of its keys in order, until the cache is full.  A cache that
agrees with the region is therefore what a fresh load brings, unless one of the keys was
not cached for another reason than a full cache (`Crowded`).
-/

namespace BondedMouse.RecordCache

open KeepsItems (item?)

/-! ## Which keys are cached -/

/-- There is a record under a key. -/
def holds (cache : RecordCache) (key : UInt16) : Bool :=
  (cache.find? key).isSome

/-- An item under a key that a cache could take. -/
def Fits (items : UInt16 → Option (List UInt8)) (key : UInt16) : Prop :=
  ∃ bytes, items key = some bytes ∧ bytes.length ≤ recordCapacity

/-- Each key of a row that is not cached although its item fits comes behind so many cached ones
that there was no room for it; so many are known from before the row. -/
def Crowded (cache : RecordCache) (items : UInt16 → Option (List UInt8)) : Nat → List UInt16 → Prop
  | _, [] => True
  | known, key :: rest =>
    (cache.find? key = none → Fits items key → capacity ≤ known) ∧
      Crowded cache items (known + if cache.holds key then 1 else 0) rest

theorem Crowded.mono {cache next : RecordCache} {items later : UInt16 → Option (List UInt8)}
    {known more : Nat} {keys : List UInt16} (crowded : Crowded cache items known keys)
    (gone : ∀ {key}, next.find? key = none → cache.find? key = none)
    (fits : ∀ {key}, next.find? key = none → Fits later key → Fits items key)
    (more_known : known ≤ more) : Crowded next later more keys := by
  induction keys generalizing known more with
  | nil => trivial
  | cons key rest ih =>
    obtain ⟨first, behind⟩ := crowded
    refine ⟨fun absent fit => Nat.le_trans (first (gone absent) (fits absent fit)) more_known,
      ih behind ?_⟩
    have held : cache.holds key = true → next.holds key = true := by
      unfold holds
      cases found : next.find? key with
      | none => simp [gone found]
      | some record => simp
    by_cases before : cache.holds key = true
    · simp [before, held before, more_known]
    · simpa [before] using Nat.le_trans more_known (Nat.le_add_right _ _)

/-- A row of cached keys. -/
theorem Crowded.of_held {cache : RecordCache} (items : UInt16 → Option (List UInt8)) (known : Nat)
    {keys : List UInt16} (held : ∀ key ∈ keys, cache.find? key ≠ none) :
    Crowded cache items known keys := by
  induction keys generalizing known with
  | nil => trivial
  | cons key rest ih =>
    obtain ⟨first, behind⟩ := List.forall_mem_cons.1 held
    exact ⟨fun absent => absurd absent first, ih _ behind⟩

/-- Of distinct keys no more are cached than there are records. -/
theorem countP_holds_le {keys : List UInt16} (distinct : keys.Nodup) (cache : RecordCache) :
    keys.countP cache.holds ≤ cache.records.length := by
  rw [List.countP_eq_length_filter, ← List.length_map CachedRecord.key]
  refine (List.subperm_of_subset (distinct.filter _) fun key held => ?_).length_le
  obtain ⟨record, found⟩ := Option.isSome_iff_exists.1 (List.mem_filter.1 held).2
  obtain ⟨listed, rfl⟩ := find?_eq_some found
  exact List.mem_map_of_mem listed

theorem find?_filterMap (cache : RecordCache) (keys : List UInt16) (key : UInt16) :
    (keys.filterMap cache.find?).find? (·.key == key) =
      if key ∈ keys then cache.find? key else none := by
  induction keys with
  | nil => simp
  | cons first rest ih =>
    cases found : cache.find? first with
    | none =>
      by_cases same : key = first
      · subst same
        simp [ih, found]
      · simp [ih, found, same]
    | some record =>
      have own : record.key = first := (find?_eq_some found).2
      by_cases same : key = first
      · subst same
        simp [found, own]
      · simp [ih, found, own, same, Ne.symm same]

section Load

variable {φ : Type} [Flash φ]

/-- No fetch of a load fails. -/
def Readable : List UInt16 → φ → Prop
  | [], _ => True
  | key :: rest, flash =>
    (Flash.fetch key flash).1.isOk = true ∧ Readable rest (Flash.fetch key flash).2

variable [KeepsItems φ] {cache : RecordCache} {key : UInt16} {flash : φ}

/-- The items of a region. -/
def items (flash : φ) : UInt16 → Option (List UInt8) :=
  fun key => item? key flash

/-- All that the load of one key can do. -/
inductive Draws (cache : RecordCache) (key : UInt16) (flash : φ) : RecordCache × φ → Prop
  | taken {bytes : List UInt8} {after : φ} (item : items flash key = some bytes)
      (fits : bytes.length ≤ recordCapacity) (room : cache.records.length < capacity)
      (kept : items after = items flash) :
      Draws cache key flash
        ({ cache with records := cache.records ++ [⟨key, bytes, false⟩] }, after)
  | passed {after : φ} (kept : items after = items flash)
      (why : (Flash.fetch key flash).1.isOk = true → Fits (items flash) key →
        capacity ≤ cache.records.length) : Draws cache key flash (cache, after)

theorem loadKey_draws (cache : RecordCache) (key : UInt16) (flash : φ) :
    Draws cache key flash (cache.loadKey key flash) := by
  have kept : items (Flash.fetch key flash).2 = items flash :=
    funext fun other => KeepsItems.item?_fetch key other flash
  have sound {item : Option (List UInt8)} (fetched : (Flash.fetch key flash).1 = .ok item) :
      item = items flash key := KeepsItems.fetch_sound fetched
  unfold loadKey
  split
  · next bytes after fetched =>
    rw [fetched] at kept sound
    have item : items flash key = some bytes := (sound rfl).symm
    unfold accept
    split
    · next taken => exact .taken item taken.1 taken.2 kept
    · next refused =>
      refine .passed kept fun _ fits => Nat.le_of_not_lt fun room => refused ⟨?_, room⟩
      obtain ⟨other, same, short⟩ := fits
      cases item.symm.trans same
      exact short
  · next after fetched =>
    rw [fetched] at kept sound
    refine .passed kept fun _ fits => ?_
    obtain ⟨bytes, item, -⟩ := fits
    cases (sound rfl).trans item
  · next error after fetched =>
    rw [fetched] at kept
    exact .passed kept fun read => by rw [fetched] at read; cases read

omit [KeepsItems φ] in
theorem loadKey_flash (cache : RecordCache) (key : UInt16) (flash : φ) :
    (cache.loadKey key flash).2 = (Flash.fetch key flash).2 := by
  unfold loadKey
  split <;> simp_all

theorem items_loadKey (cache : RecordCache) (key : UInt16) (flash : φ) :
    items (cache.loadKey key flash).2 = items flash := by
  rw [loadKey_flash]
  exact funext fun other => KeepsItems.item?_fetch key other flash

omit [Flash φ] [KeepsItems φ] in
theorem find?_append (absent : cache.find? key = none) (bytes : List UInt8) :
    RecordCache.find? { cache with records := cache.records ++ [⟨key, bytes, false⟩] } key =
      some ⟨key, bytes, false⟩ := by
  change List.find? _ cache.records = _ at absent
  simp [RecordCache.find?, absent]

/-- A key after its load. -/
theorem Draws.find? {after : RecordCache × φ} (draws : Draws cache key flash after)
    (absent : cache.find? key = none) (other : UInt16) :
    after.1.find? other = cache.find? other ∨
      other = key ∧ ∃ bytes, items flash key = some bytes ∧ bytes.length ≤ recordCapacity ∧
        after.1.find? key = some ⟨key, bytes, false⟩ := by
  cases draws with
  | passed => exact .inl rfl
  | @taken bytes after item fits room kept =>
    by_cases same : other = key
    · exact .inr ⟨same, bytes, item, fits, find?_append absent bytes⟩
    · refine .inl ?_
      simp [RecordCache.find?, Ne.symm same]

/-- A cache that agrees with the region in all its records. -/
structure Drawn (cache : RecordCache) (items : UInt16 → Option (List UInt8)) : Prop where
  formed : cache.WellFormed
  clean : ∀ {key record}, cache.find? key = some record →
    record.dirty = false ∧ items key = some record.bytes

theorem Drawn.loadKey (drawn : cache.Drawn (items flash)) (absent : cache.find? key = none) :
    (cache.loadKey key flash).1.Drawn (items (cache.loadKey key flash).2) := by
  have draws := loadKey_draws cache key flash
  have found := draws.find? absent
  generalize cache.loadKey key flash = after at draws found
  cases draws with
  | passed kept =>
    dsimp only
    rwa [kept]
  | taken item fits room kept =>
    have formed := drawn.formed
    dsimp only at found ⊢
    rw [kept]
    refine ⟨⟨?_, ?_, ?_⟩, ?_⟩
    · have fresh : key ∉ cache.records.map CachedRecord.key := find?_eq_none.1 absent
      rw [List.map_append]
      exact List.nodup_append.2 ⟨formed.distinct, by simp, by simpa using fresh⟩
    · simpa using Nat.succ_le_of_lt room
    · intro other bytes held
      obtain ⟨record, located, rfl⟩ := Option.map_eq_some_iff.1 held
      obtain same | ⟨rfl, bytes, -, fits, own⟩ := found other
      · exact formed.short (Option.map_eq_some_iff.2 ⟨record, same.symm.trans located, rfl⟩)
      · cases own.symm.trans located
        exact fits
    · intro other record located
      obtain same | ⟨rfl, bytes, item, -, own⟩ := found other
      · exact drawn.clean (same.symm.trans located)
      · cases own.symm.trans located
        exact ⟨rfl, item⟩

/-- Keys that are all still to be loaded. -/
def Pending (cache : RecordCache) (keys : List UInt16) : Prop :=
  keys.Nodup ∧ ∀ key ∈ keys, cache.find? key = none

omit [KeepsItems φ] in
theorem Pending.first {rest : List UInt16} (pending : cache.Pending (key :: rest)) :
    cache.find? key = none :=
  pending.2 key (by simp)

theorem Pending.behind {rest : List UInt16} (pending : cache.Pending (key :: rest)) :
    (cache.loadKey key flash).1.Pending rest := by
  obtain ⟨fresh, distinct⟩ := List.nodup_cons.1 pending.1
  refine ⟨distinct, fun other later => ?_⟩
  obtain same | ⟨rfl, -⟩ := (loadKey_draws cache key flash).find? pending.first other
  · rw [same]
    exact pending.2 other (List.mem_cons_of_mem _ later)
  · exact absurd later fresh

omit [KeepsItems φ] in
theorem loadKeys_cons (key : UInt16) (rest : List UInt16) (cache : RecordCache) (flash : φ) :
    loadKeys (key :: rest) cache flash =
      loadKeys rest (cache.loadKey key flash).1 (cache.loadKey key flash).2 := rfl

theorem Drawn.loadKeys {keys : List UInt16} (drawn : cache.Drawn (items flash))
    (pending : cache.Pending keys) :
    (loadKeys keys cache flash).1.Drawn (items (loadKeys keys cache flash).2) := by
  induction keys generalizing cache flash with
  | nil => exact drawn
  | cons key rest ih => exact ih (drawn.loadKey pending.first) pending.behind

theorem items_loadKeys (keys : List UInt16) (cache : RecordCache) (flash : φ) :
    items (loadKeys keys cache flash).2 = items flash := by
  induction keys generalizing cache flash with
  | nil => rfl
  | cons key rest ih =>
    rw [loadKeys_cons, ih, items_loadKey]

/-- The keys that are not among those of a load fare as before. -/
theorem find?_loadKeys {keys : List UInt16} (pending : cache.Pending keys) (flash : φ)
    {other : UInt16} (elsewhere : other ∉ keys) :
    (loadKeys keys cache flash).1.find? other = cache.find? other := by
  induction keys generalizing cache flash with
  | nil => rfl
  | cons key rest ih =>
    obtain ⟨different, elsewhere⟩ : other ≠ key ∧ other ∉ rest := by simpa using elsewhere
    rw [loadKeys_cons, ih pending.behind _ elsewhere]
    obtain same | ⟨rfl, -⟩ := (loadKey_draws cache key flash).find? pending.first other
    · exact same
    · exact absurd rfl different

/-- What a load that reads all its items leaves out it had no room for. -/
theorem loadKeys_crowded {keys : List UInt16} (cache : RecordCache) (pending : cache.Pending keys)
    {flash : φ} (readable : Readable keys flash) :
    Crowded (loadKeys keys cache flash).1 (items flash) cache.records.length keys := by
  induction keys generalizing cache flash with
  | nil => trivial
  | cons key rest ih =>
    obtain ⟨fresh, -⟩ := List.nodup_cons.1 pending.1
    have pending' : (cache.loadKey key flash).1.Pending rest := pending.behind
    have read : Readable rest (cache.loadKey key flash).2 := by
      rw [loadKey_flash]
      exact readable.2
    have later := ih _ pending' read
    have here := find?_loadKeys pending' (cache.loadKey key flash).2 fresh
    have draws := loadKey_draws cache key flash
    rw [loadKeys_cons]
    unfold Crowded holds
    rw [here]
    generalize cache.loadKey key flash = after at draws later
    cases draws with
    | passed kept why =>
      dsimp only at later ⊢
      rw [pending.first]
      rw [kept] at later
      exact ⟨fun _ fits => why readable.1 fits, later⟩
    | @taken bytes after item fits room kept =>
      have cached := find?_append pending.first bytes
      dsimp only at later ⊢
      rw [cached]
      rw [kept] at later
      exact ⟨fun absent => (nomatch absent), by simpa using later⟩

/-- A cache that agrees with the region, and left out only what it had no room for, is what a load
brings. -/
theorem loadKeys_eq {keys : List UInt16} (loading : RecordCache) (drawn : cache.Drawn (items flash))
    (crowded : Crowded cache (items flash) loading.records.length keys)
    (room : loading.records.length + keys.countP cache.holds ≤ capacity)
    (readable : Readable keys flash) :
    (loadKeys keys loading flash).1.records = loading.records ++ keys.filterMap cache.find? := by
  induction keys generalizing loading flash with
  | nil => simp [loadKeys]
  | cons key rest ih =>
    obtain ⟨here, behind⟩ := crowded
    have draws := loadKey_draws loading key flash
    have read : Readable rest (loading.loadKey key flash).2 := by
      rw [loadKey_flash]
      exact readable.2
    have drawnOn : cache.Drawn (items (loading.loadKey key flash).2) := by rwa [items_loadKey]
    have later := ih (loading.loadKey key flash).1 drawnOn
    rw [loadKeys_cons, items_loadKey] at *
    generalize loading.loadKey key flash = after at draws later read
    cases found : cache.find? key with
    | some record =>
      -- It is cached, so its item fits, and there is room since no more than the cached ones come.
      obtain ⟨clean, item⟩ := drawn.clean found
      have held : cache.holds key = true := by simp [holds, found]
      have short : record.bytes.length ≤ recordCapacity :=
        drawn.formed.short (Option.map_eq_some_iff.2 ⟨record, found, rfl⟩)
      have same : (⟨key, record.bytes, false⟩ : CachedRecord) = record := by
        rw [← clean, ← (find?_eq_some found).2]
      simp only [held, if_true, List.countP_cons_of_pos] at behind room
      cases draws with
      | @taken bytes after other =>
        cases other.symm.trans item
        dsimp only at later ⊢
        rw [later (by simpa using behind) (by simpa [Nat.add_assoc, Nat.add_comm] using room) read]
        simp [found, same]
      | passed kept why =>
        have full := why readable.1 ⟨record.bytes, item, short⟩
        omega
    | none =>
      have missing : cache.holds key = false := by simp [holds, found]
      simp only [missing, List.countP_cons] at behind room
      cases draws with
      | taken item fits =>
        have full := here found ⟨_, item, fits⟩
        omega
      | passed kept why =>
        dsimp only at later ⊢
        rw [later (by simpa using behind) (by simpa using room) read]
        simp [found]

/-! ## Loads of a cache -/

theorem loadKeys_collectRequested (keys : List UInt16) (cache : RecordCache) (flash : φ) :
    (loadKeys keys cache flash).1.collectRequested = cache.collectRequested := by
  induction keys generalizing cache flash with
  | nil => rfl
  | cons key rest ih =>
    rw [loadKeys_cons, ih]
    have draws := loadKey_draws cache key flash
    generalize cache.loadKey key flash = after at draws
    cases draws <;> rfl

theorem load_drawn {keys : List UInt16} (distinct : keys.Nodup) (blank : RecordCache) (flash : φ) :
    (blank.load keys flash).1.Drawn (items (blank.load keys flash).2) := by
  refine Drawn.loadKeys ⟨⟨by simp, by simp, ?_⟩, ?_⟩ ⟨distinct, ?_⟩
  · intro key bytes held
    cases held
  · intro key record found
    cases found
  · intro key _
    rfl

/-- A cache that was just loaded has nothing to save. -/
theorem load_needsSave {keys : List UInt16} (distinct : keys.Nodup) (flash : φ) :
    (empty.load keys flash).1.needsSave = false := by
  have drawn := load_drawn distinct empty flash
  have quiet : (empty.load keys flash).1.collectRequested = false :=
    loadKeys_collectRequested keys { empty with records := [] } flash
  have clean (record : CachedRecord) (held : record ∈ (empty.load keys flash).1.records) :
      record.dirty = false := (drawn.clean (find?_of_mem drawn.formed.distinct held)).1
  simpa [needsSave, quiet] using clean

theorem load_crowded {keys : List UInt16} (distinct : keys.Nodup) (blank : RecordCache) {flash : φ}
    (readable : Readable keys flash) :
    Crowded (blank.load keys flash).1 (items (blank.load keys flash).2) 0 keys := by
  unfold load
  rw [items_loadKeys]
  exact loadKeys_crowded { blank with records := [] } ⟨distinct, fun _ _ => rfl⟩ readable

theorem load_eq {keys : List UInt16} (distinct : keys.Nodup) (drawn : cache.Drawn (items flash))
    (crowded : Crowded cache (items flash) 0 keys) (readable : Readable keys flash)
    (blank : RecordCache) :
    (blank.load keys flash).1.records = keys.filterMap cache.find? := by
  have room : keys.countP cache.holds ≤ capacity :=
    Nat.le_trans (countP_holds_le distinct cache) drawn.formed.few
  exact loadKeys_eq { blank with records := [] } drawn crowded (by simpa using room)
    readable

end Load

end BondedMouse.RecordCache
