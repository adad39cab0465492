import BondedMouse.Proofs.Storage.Loading

/-! # What a clean save makes durable

Cache, dirty flags, the request of a garbage collection and the region are four accounts
of the same records.  Each move of the store is described key by key (`Fares`); from
that follow what the cache holds, when it agrees with the region, and that a fresh
cache that is loaded after a clean save holds the same records.
-/

namespace BondedMouse

open KeepsItems (item?)

namespace RecordCache

/-! ## One key of a cache -/

section Keys

variable {φ : Type} [Flash φ]

theorem keys_replace (key : UInt16) (bytes : List UInt8) (records : List CachedRecord) :
    (replace key bytes records).map CachedRecord.key = records.map CachedRecord.key := by
  induction records with
  | nil => rfl
  | cons record rest ih =>
    unfold replace
    split
    · rfl
    · simpa using ih

theorem find?_dropPending (key : UInt16) (cache : RecordCache) :
    cache.dropPending.find? key =
      (cache.find? key).map fun record => { record with dirty := false } :=
  List.find?_map

theorem find?_marked (key : UInt16) (records : List CachedRecord) :
    (records.map fun record => { record with dirty := true }).find? (·.key == key) =
      (records.find? (·.key == key)).map fun record => { record with dirty := true } :=
  List.find?_map

/-- A key after a pass over the records of a cache: it is held, or else it is absent throughout. -/
theorem Passes.find?_cases [KeepsItems φ] {records saved : List CachedRecord} {flash after : φ}
    (passes : Passes records flash saved after) (key : UInt16) :
    (records.find? (·.key == key) = none ∧ saved.find? (·.key == key) = none ∧
      item? key after = item? key flash) ∨
    ∃ record kept, records.find? (·.key == key) = some record ∧
      saved.find? (·.key == key) = some kept ∧
        Saved (item? key flash) record kept (item? key after) := by
  cases found : records.find? (·.key == key) with
  | none =>
    have absent : key ∉ records.map CachedRecord.key :=
      find?_eq_none.1 (show RecordCache.find? ⟨records, false⟩ key = none from found)
    have gone : key ∉ saved.map CachedRecord.key := by rwa [passes.keys]
    have missing : RecordCache.find? ⟨saved, false⟩ key = none := find?_eq_none.2 gone
    exact .inl ⟨rfl, missing, passes.absent absent⟩
  | some record =>
    obtain ⟨kept, located, became⟩ := passes.held found
    exact .inr ⟨record, kept, rfl, located, became⟩

end Keys

/-- What a read answers about a record. -/
def answer (room : Nat) : Option (List UInt8) → Except StorageError (Option Reading)
  | none => .ok none
  | some bytes => if bytes.length ≤ room then .ok (some ⟨bytes.length, bytes⟩) else .error .noSpace

theorem read_answers (key : UInt16) (room : Nat) (cache : RecordCache) :
    (read key room cache).1 = answer room (cache.bytes? key) := by
  unfold read bytes?
  cases cache.find? key <;> rfl

end RecordCache

/-! ## Moves of a store -/

/-- A record cache and the region of flash behind it. -/
structure BackedCache (φ : Type) where
  cache : RecordCache
  flash : φ

/-- What can happen to a loaded store.  The region may change on its own in how it will answer, but
not in its items. -/
inductive StoreMove (φ : Type) [Flash φ] [KeepsItems φ]
  | write (key : UInt16) (bytes : List UInt8)
  | read (key : UInt16) (room : Nat)
  | reclaim
  | save
  | dropPending
  | outside (change : φ → φ) (keeps : ∀ key flash, item? key (change flash) = item? key flash)

namespace BackedCache

variable {φ : Type} [Flash φ]

/-- A store that was loaded with the records of some keys. -/
def loaded (blank : RecordCache) (keys : List UInt16) (flash : φ) : BackedCache φ :=
  ⟨(blank.load keys flash).1, (blank.load keys flash).2⟩

variable [KeepsItems φ]

def moved (backed : BackedCache φ) : StoreMove φ → BackedCache φ
  | .write key bytes => { backed with cache := (RecordCache.write key bytes backed.cache).2 }
  | .read key room => { backed with cache := (RecordCache.read key room backed.cache).2 }
  | .reclaim => { backed with cache := backed.cache.reclaim.2 }
  | .save => ⟨(backed.cache.save backed.flash).2.1, (backed.cache.save backed.flash).2.2⟩
  | .dropPending => { backed with cache := backed.cache.dropPending }
  | .outside change _ => { backed with flash := change backed.flash }

def after (backed : BackedCache φ) (moves : List (StoreMove φ)) : BackedCache φ :=
  moves.foldl moved backed

/-! ## Accounts of a run -/

/-- The bytes that a move writes under a key, if the write succeeds. -/
def accepted? (key : UInt16) (backed : BackedCache φ) : StoreMove φ → Option (List UInt8)
  | .write name bytes =>
    if name = key ∧ (RecordCache.write name bytes backed.cache).1.isOk then some bytes else none
  | _ => none

/-- The bytes of the last successful write under a key. -/
def written? (key : UInt16) : BackedCache φ → List (StoreMove φ) → Option (List UInt8)
  | _, [] => none
  | backed, move :: rest => (written? key (backed.moved move) rest).or (backed.accepted? key move)

/-- The record under a key is dirty. -/
def isDirty (key : UInt16) (backed : BackedCache φ) : Bool :=
  (backed.cache.find? key).any (·.dirty)

/-- The move marks the record under a key as dirty, if there is one: it is written, or the region
is erased. -/
def marks (key : UInt16) (backed : BackedCache φ) : StoreMove φ → Bool
  | .save => backed.cache.collectRequested && (Flash.eraseAll backed.flash).1.isOk
  | move => (backed.accepted? key move).isSome

/-- Whether the record under a key was dropped while dirty and not marked since, after one move. -/
def lostBy (key : UInt16) (lost : Bool) (backed : BackedCache φ) : StoreMove φ → Bool
  | .dropPending => lost || backed.isDirty key
  | move => lost && !backed.marks key move

/-- The record under a key was dropped while dirty and was not marked as dirty since. -/
def lostAfter (key : UInt16) : Bool → BackedCache φ → List (StoreMove φ) → Bool
  | lost, _, [] => lost
  | lost, backed, move :: rest =>
    lostAfter key (backed.lostBy key lost move) (backed.moved move) rest

/-! ## Moves, key by key -/

/-- All there is about one key: its record in the cache, its item in the region and whether a drop
of it is outstanding. -/
structure Slot where
  record : Option CachedRecord
  item : Option (List UInt8)
  lost : Bool

/-- A record that is neither dirty nor lost is the item in the region. -/
def Slot.Agrees (slot : Slot) : Prop :=
  ∀ record, slot.record = some record → record.dirty = false → slot.lost = false →
    slot.item = some record.bytes

/-- What a move does to a key, with the bytes that it writes there. -/
inductive Fares (key : UInt16) (slot : Slot) : Option (List UInt8) → Slot → Prop
  | same : Fares key slot none slot
  | written {bytes : List UInt8} (fits : bytes.length ≤ RecordCache.recordCapacity) :
      Fares key slot (some bytes) { slot with record := some ⟨key, bytes, true⟩, lost := false }
  | dropped {record : CachedRecord} (held : slot.record = some record) :
      Fares key slot none { slot with
        record := some { record with dirty := false }
        lost := slot.lost || record.dirty }
  | saved {record kept : CachedRecord} {item : Option (List UInt8)}
      (held : slot.record = some record) (saved : RecordCache.Saved slot.item record kept item) :
      Fares key slot none { slot with record := some kept, item }
  /-- The region was erased, so the record had to be stored again. -/
  | erased {record kept : CachedRecord} {item : Option (List UInt8)}
      (held : slot.record = some record)
      (saved : RecordCache.Saved none { record with dirty := true } kept item) :
      Fares key slot none ⟨some kept, item, false⟩
  | emptied (absent : slot.record = none) : Fares key slot none ⟨none, none, false⟩

/-- A key of a store, given whether a drop of it is outstanding. -/
def slot (key : UInt16) (lost : Bool) (backed : BackedCache φ) : Slot :=
  ⟨backed.cache.find? key, item? key backed.flash, lost⟩

theorem write_fares (backed : BackedCache φ) (key : UInt16) (lost : Bool) (name : UInt16)
    (bytes : List UInt8) :
    Fares key (backed.slot key lost) (backed.accepted? key (.write name bytes))
      ((backed.moved (.write name bytes)).slot key
        (backed.lostBy key lost (.write name bytes))) := by
  have writes := RecordCache.write_writes name bytes backed.cache
  unfold lostBy marks accepted? slot
  dsimp only [moved]
  cases wrote : RecordCache.write name bytes backed.cache with
  | mk result cache =>
    rw [wrote] at writes
    cases result with
    | error error =>
      cases writes
      simpa [Except.isOk, Except.toBool] using Fares.same
    | ok value =>
      have found := writes.find? key
      have fits : bytes.length ≤ RecordCache.recordCapacity := by cases writes <;> assumption
      by_cases same : name = key
      · subst same
        rw [found]
        have written : Fares name (backed.slot name lost) (some bytes)
            { backed.slot name lost with record := some ⟨name, bytes, true⟩, lost := false } :=
          .written fits
        simpa [Except.isOk, Except.toBool, slot] using written
      · rw [found]
        simpa [Except.isOk, Except.toBool, same, Ne.symm same] using Fares.same

theorem save_fares {backed : BackedCache φ}
    (distinct : (backed.cache.records.map CachedRecord.key).Nodup) (key : UInt16) (lost : Bool) :
    Fares key (backed.slot key lost) none
      ((backed.moved .save).slot key (backed.lostBy key lost .save)) := by
  have saves := RecordCache.save_saves distinct backed.flash
  change Fares key _ none ⟨(backed.cache.save backed.flash).2.1.find? key,
    item? key (backed.cache.save backed.flash).2.2,
    lost && !(backed.cache.collectRequested && (Flash.eraseAll backed.flash).1.isOk)⟩
  generalize backed.cache.save backed.flash = result at saves
  cases saves with
  | refused collect failed items =>
    simp only [failed, items, Bool.and_false, Bool.not_false, Bool.and_true]
    exact .same
  | @erased empty after result saved collect done bare passes clean =>
    simp only [collect, done, Bool.and_self, Bool.not_true, Bool.and_false]
    obtain ⟨absent, gone, items⟩ | ⟨record, kept, held, found, fares⟩ := passes.find?_cases key
    · rw [RecordCache.find?_marked, Option.map_eq_none_iff] at absent
      rw [items, bare, show RecordCache.find? ⟨saved, false⟩ key = none from gone]
      exact .emptied absent
    · rw [RecordCache.find?_marked, Option.map_eq_some_iff] at held
      obtain ⟨record, held, rfl⟩ := held
      rw [bare] at fares
      rw [show RecordCache.find? ⟨saved, false⟩ key = some kept from found]
      exact .erased held fares
  | @plain after result saved keep passes clean =>
    simp only [keep, Bool.false_and, Bool.not_false, Bool.and_true]
    obtain ⟨absent, gone, items⟩ | ⟨record, kept, held, found, fares⟩ := passes.find?_cases key
    · rw [items, show RecordCache.find? ⟨saved, false⟩ key = none from gone, ← absent]
      exact .same
    · rw [show RecordCache.find? ⟨saved, false⟩ key = some kept from found]
      exact .saved held fares

theorem moved_fares {backed : BackedCache φ}
    (distinct : (backed.cache.records.map CachedRecord.key).Nodup) (key : UInt16) (lost : Bool)
    (move : StoreMove φ) :
    Fares key (backed.slot key lost) (backed.accepted? key move)
      ((backed.moved move).slot key (backed.lostBy key lost move)) := by
  cases move with
  | write name bytes => exact backed.write_fares key lost name bytes
  | read name room => simpa [lostBy, marks, accepted?, moved, RecordCache.read] using Fares.same
  | reclaim =>
    have same : backed.cache.reclaim.2.find? key = backed.cache.find? key := by
      unfold RecordCache.reclaim
      split <;> rfl
    simpa [lostBy, marks, accepted?, moved, slot, same] using Fares.same
  | save => exact save_fares distinct key lost
  | dropPending =>
    change Fares key _ none ⟨backed.cache.dropPending.find? key, item? key backed.flash,
      lost || backed.isDirty key⟩
    unfold isDirty
    rw [RecordCache.find?_dropPending]
    cases held : backed.cache.find? key with
    | none =>
      have same : backed.slot key lost = ⟨none, item? key backed.flash, lost⟩ := by rw [slot, held]
      simpa [same] using Fares.same
    | some record => exact .dropped held
  | outside change keeps =>
    simpa [lostBy, marks, accepted?, moved, slot, keeps] using Fares.same

/-! ## What every move preserves -/

namespace Fares

variable {key : UInt16} {slot next : Slot} {accepted : Option (List UInt8)}

/-- The cache holds what is written, and otherwise what it held. -/
theorem bytes (fares : Fares key slot accepted next) :
    next.record.map CachedRecord.bytes = accepted.or (slot.record.map CachedRecord.bytes) := by
  cases fares with
  | same | written | emptied => simp_all
  | dropped held => simp [held]
  | saved held saved | erased held saved => cases saved <;> simp [held]

theorem fits {bytes : List UInt8} (fares : Fares key slot (some bytes) next) :
    bytes.length ≤ RecordCache.recordCapacity := by
  cases fares
  assumption

/-- A key that is not cached was not cached before, and its item is the same or was erased. -/
theorem absent (fares : Fares key slot accepted next) (gone : next.record = none) :
    slot.record = none ∧ (next.item = slot.item ∨ next.item = none) := by
  cases fares with
  | same => exact ⟨gone, .inl rfl⟩
  | emptied absent => exact ⟨absent, .inr rfl⟩
  | written | dropped | saved | erased => cases gone

theorem agrees (fares : Fares key slot accepted next) (agrees : slot.Agrees) : next.Agrees := by
  intro record held clean kept
  cases fares with
  | same => exact agrees record held clean kept
  | written fits =>
    cases held
    cases clean
  | dropped before =>
    -- A drop that is not outstanding found the record clean.
    cases held
    obtain ⟨settled, spotless⟩ := Bool.or_eq_false_iff.1 kept
    have same := agrees _ before spotless settled
    exact same
  | saved before saved =>
    cases held
    cases saved with
    | left => exact agrees _ before clean kept
    | stored dirty => rfl
  | erased before saved =>
    cases held
    cases saved with
    | left => cases clean
    | stored dirty => rfl
  | emptied absent => cases held

end Fares

/-- A move keeps the keys of the cache, or adds one to them. -/
theorem keys_moved {backed : BackedCache φ}
    (distinct : (backed.cache.records.map CachedRecord.key).Nodup) (move : StoreMove φ) :
    (backed.moved move).cache.records.map CachedRecord.key =
        backed.cache.records.map CachedRecord.key ∨
      ∃ key, key ∉ backed.cache.records.map CachedRecord.key ∧
        backed.cache.records.length < RecordCache.capacity ∧
        (backed.moved move).cache.records.map CachedRecord.key =
          backed.cache.records.map CachedRecord.key ++ [key] := by
  cases move with
  | write key bytes =>
    have writes := RecordCache.write_writes key bytes backed.cache
    dsimp only [moved]
    generalize RecordCache.write key bytes backed.cache = result at writes
    cases writes with
    | refused => exact .inl rfl
    | replaced fits held => exact .inl (RecordCache.keys_replace key bytes _)
    | added fits absent room =>
      exact .inr ⟨key, RecordCache.find?_eq_none.1 absent, room, by simp⟩
  | read | outside => exact .inl rfl
  | reclaim =>
    dsimp only [moved]
    unfold RecordCache.reclaim
    split <;> exact .inl rfl
  | save =>
    have saves := RecordCache.save_saves distinct backed.flash
    dsimp only [moved]
    generalize backed.cache.save backed.flash = result at saves
    cases saves with
    | refused => exact .inl rfl
    | erased collect done bare passes =>
      exact .inl (passes.keys.trans (by simp [Function.comp_def]))
    | plain keep passes => exact .inl passes.keys
  | dropPending => exact .inl (by simp [moved, RecordCache.dropPending, Function.comp_def])

theorem bytes?_moved {backed : BackedCache φ}
    (distinct : (backed.cache.records.map CachedRecord.key).Nodup) (key : UInt16)
    (move : StoreMove φ) :
    (backed.moved move).cache.bytes? key =
      (backed.accepted? key move).or (backed.cache.bytes? key) :=
  (moved_fares distinct key false move).bytes

theorem wellFormed_moved {backed : BackedCache φ} (formed : backed.cache.WellFormed)
    (move : StoreMove φ) : (backed.moved move).cache.WellFormed := by
  have keys := keys_moved formed.distinct move
  have length : (backed.moved move).cache.records.length =
      ((backed.moved move).cache.records.map CachedRecord.key).length := by simp
  refine ⟨?_, ?_, fun {key bytes} held => ?_⟩
  · obtain same | ⟨key, fresh, -, added⟩ := keys
    · rw [same]
      exact formed.distinct
    · rw [added]
      exact List.nodup_append.2 ⟨formed.distinct, by simp, by simpa using fresh⟩
  · obtain same | ⟨key, -, room, added⟩ := keys
    · rw [length, same, List.length_map]
      exact formed.few
    · rw [length, added]
      simpa using Nat.succ_le_of_lt room
  · rw [bytes?_moved formed.distinct] at held
    have fares := moved_fares formed.distinct key false move
    obtain written | ⟨-, before⟩ := Option.or_eq_some_iff.1 held
    · rw [written] at fares
      exact fares.fits
    · exact formed.short before

/-! ## Runs -/

section Runs

variable {start : BackedCache φ} (formed : start.cache.WellFormed) (moves : List (StoreMove φ))

theorem after_cons (start : BackedCache φ) (move : StoreMove φ) (moves : List (StoreMove φ)) :
    start.after (move :: moves) = (start.moved move).after moves := rfl

theorem after_concat (start : BackedCache φ) (moves : List (StoreMove φ)) (move : StoreMove φ) :
    start.after (moves ++ [move]) = (start.after moves).moved move := by
  simp [after]

include formed

theorem wellFormed_after : (start.after moves).cache.WellFormed := by
  induction moves generalizing start with
  | nil => exact formed
  | cons move moves ih => exact ih (wellFormed_moved formed move)

/-- The cache holds what was written last, or else what it held at the start. -/
theorem bytes?_after (key : UInt16) :
    (start.after moves).cache.bytes? key = (start.written? key moves).or (start.cache.bytes? key) := by
  induction moves generalizing start with
  | nil => rfl
  | cons move moves ih =>
    rw [after_cons, ih (wellFormed_moved formed move), bytes?_moved formed.distinct, written?,
      Option.or_assoc]

theorem agrees_after {key : UInt16} {lost : Bool} (agrees : (start.slot key lost).Agrees) :
    ((start.after moves).slot key (start.lostAfter key lost moves)).Agrees := by
  induction moves generalizing start lost with
  | nil => exact agrees
  | cons move moves ih =>
    exact ih (wellFormed_moved formed move) ((moved_fares formed.distinct key lost move).agrees agrees)

omit formed in
theorem lostAfter_concat (key : UInt16) (lost : Bool) (start : BackedCache φ) (move : StoreMove φ) :
    start.lostAfter key lost (moves ++ [move]) =
      (start.after moves).lostBy key (start.lostAfter key lost moves) move := by
  induction moves generalizing start lost with
  | nil => rfl
  | cons first moves ih => exact ih _ _

/-- The keys that are not cached although their items fit stay behind as many cached ones. -/
theorem crowded_after {known : Nat} {keys : List UInt16}
    (crowded : start.cache.Crowded (RecordCache.items start.flash) known keys) :
    (start.after moves).cache.Crowded (RecordCache.items (start.after moves).flash) known keys := by
  induction moves generalizing start with
  | nil => exact crowded
  | cons move moves ih =>
    have fares (key : UInt16) := moved_fares formed.distinct key false move
    refine ih (wellFormed_moved formed move) (crowded.mono ?_ ?_ (Nat.le_refl known))
    · intro key gone
      exact ((fares key).absent gone).1
    · rintro key gone ⟨bytes, item, short⟩
      have item : (slot key (start.lostBy key false move) (start.moved move)).item = some bytes := item
      obtain ⟨-, same | erased⟩ := (fares key).absent gone
      · exact ⟨bytes, same.symm.trans item, short⟩
      · cases erased.symm.trans item

end Runs

/-! ## Clean saves -/

/-- What a save that succeeded leaves: nothing is dirty, and no collection is requested. -/
theorem save_clean {backed : BackedCache φ}
    (distinct : (backed.cache.records.map CachedRecord.key).Nodup)
    (saved : (backed.cache.save backed.flash).1 = .ok ()) :
    (backed.moved .save).cache.needsSave = false ∧
      ∀ record ∈ (backed.moved .save).cache.records, record.dirty = false := by
  have saves := RecordCache.save_saves distinct backed.flash
  dsimp only [moved]
  generalize backed.cache.save backed.flash = result at saves saved
  cases saves with
  | refused => cases saved
  | erased _ _ _ _ clean | plain _ _ clean =>
    exact ⟨by simpa [RecordCache.needsSave] using clean saved, clean saved⟩

/-- A fresh store that is loaded with some keys reads the same as a store, under these keys and
under those that have no record. -/
def ReadsBack (keys : List UInt16) (backed : BackedCache φ) : Prop :=
  RecordCache.Readable keys backed.flash → ∀ key, key ∈ keys ∨ backed.cache.find? key = none →
    ∀ room, (RecordCache.read key room (RecordCache.empty.load keys backed.flash).1).1 =
      (RecordCache.read key room backed.cache).1

theorem ReadsBack.of_drawn {backed : BackedCache φ} {keys : List UInt16} (distinct : keys.Nodup)
    (drawn : backed.cache.Drawn (RecordCache.items backed.flash))
    (crowded : backed.cache.Crowded (RecordCache.items backed.flash) 0 keys) :
    backed.ReadsBack keys := by
  intro readable key known room
  have loaded := RecordCache.load_eq distinct drawn crowded readable .empty
  have found : (RecordCache.empty.load keys backed.flash).1.find? key = backed.cache.find? key := by
    unfold RecordCache.find?
    rw [loaded, RecordCache.find?_filterMap]
    obtain listed | absent := known
    · rw [if_pos listed]
      rfl
    · rw [absent, ite_self]
      exact absent.symm
  simp only [RecordCache.read_answers, RecordCache.bytes?, found]

section Loaded

variable {keys : List UInt16} (distinct : keys.Nodup) (blank : RecordCache) (flash : φ)

include distinct

theorem agrees_loaded (moves : List (StoreMove φ)) (key : UInt16) :
    (((loaded blank keys flash).after moves).slot key
      ((loaded blank keys flash).lostAfter key false moves)).Agrees := by
  have drawn := RecordCache.load_drawn distinct blank flash
  exact agrees_after drawn.formed moves fun record found _ _ => (drawn.clean found).2

/-- A clean save of a store of which no drop is outstanding agrees with the region. -/
theorem drawn_saved {moves : List (StoreMove φ)}
    (saved : (((loaded blank keys flash).after moves).cache.save
      ((loaded blank keys flash).after moves).flash).1 = .ok ())
    (kept : ∀ key, (loaded blank keys flash).lostAfter key false (moves ++ [.save]) = false) :
    ((loaded blank keys flash).after (moves ++ [.save])).cache.Drawn
      (RecordCache.items ((loaded blank keys flash).after (moves ++ [.save])).flash) := by
  have formed := (RecordCache.load_drawn distinct blank flash).formed
  refine ⟨wellFormed_after formed _, fun {key record} found => ?_⟩
  have clean : record.dirty = false := by
    rw [after_concat] at found
    exact (save_clean (wellFormed_after formed moves).distinct saved).2 record
      (RecordCache.find?_eq_some found).1
  exact ⟨clean, agrees_loaded distinct blank flash _ key record found clean (kept key)⟩

end Loaded

/-- A store that is loaded with distinct keys reads what was written last or was loaded, and a write
that fails changes nothing.  Of its records those that are neither dirty nor dropped while dirty are
in the region.  After a save that succeeds nothing is dirty, and if no drop is outstanding a
fresh store reads the same records, be it loaded with the same keys or with those in the cache. -/
theorem clean_save_is_durable (blank : RecordCache) {keys : List UInt16} (distinct : keys.Nodup)
    (flash : φ) (moves : List (StoreMove φ)) :
    let start := loaded blank keys flash
    let last := start.after moves
    let saved := start.after (moves ++ [.save])
    (∀ key room, (RecordCache.read key room last.cache).1 =
      RecordCache.answer room ((start.written? key moves).or (start.cache.bytes? key))) ∧
    (∀ key bytes error, (RecordCache.write key bytes last.cache).1 = .error error →
      (RecordCache.write key bytes last.cache).2 = last.cache) ∧
    (∀ record ∈ last.cache.records, record.dirty = false →
      start.lostAfter record.key false moves = false →
      item? record.key last.flash = some record.bytes) ∧
    ((last.cache.save last.flash).1 = .ok () →
      saved.cache.needsSave = false ∧
      ((∀ key, start.lostAfter key false (moves ++ [.save]) = false) →
        (RecordCache.Readable keys flash → saved.ReadsBack keys) ∧
        saved.ReadsBack (saved.cache.records.map CachedRecord.key))) := by
  intro start last saved
  have formed : start.cache.WellFormed := (RecordCache.load_drawn distinct blank flash).formed
  have kept : last.cache.WellFormed := wellFormed_after formed moves
  refine ⟨fun key room => ?_, fun _ _ _ => RecordCache.write_failed, ?_, fun done => ⟨?_, ?_⟩⟩
  · rw [RecordCache.read_answers, bytes?_after formed]
  · intro record held clean settled
    exact agrees_loaded distinct blank flash moves record.key record
      (RecordCache.find?_of_mem kept.distinct held) clean settled
  · show (start.after (moves ++ [.save])).cache.needsSave = false
    rw [after_concat]
    exact (save_clean kept.distinct done).1
  · intro settled
    have drawn := drawn_saved distinct blank flash done settled
    refine ⟨fun readable => ?_, ?_⟩
    · exact .of_drawn distinct drawn
        (crowded_after formed _ (RecordCache.load_crowded distinct blank readable))
    · refine .of_drawn drawn.formed.distinct drawn (.of_held _ _ fun key held absent => ?_)
      exact RecordCache.find?_eq_none.1 absent held

section Bench

/-- A chip that holds one record. -/
def benchChip : Chip := .new (RecordMap.empty.insert 3 [1])

/-- A write whose save fails is dropped; the next save erases the region. -/
def benchMoves : List (StoreMove Chip) :=
  [.write 7 [5], .outside (fun chip => { chip with writeFails := true }) fun _ _ => rfl, .save,
    .dropPending, .outside (fun chip => { chip with writeFails := false }) fun _ _ => rfl, .reclaim]

/-- The erased region is written anew, with the record that had been dropped. -/
theorem clean_save_restores_dropped :
    let start := loaded .empty [3, 7] benchChip
    let saved := start.after (benchMoves ++ [.save])
    [(3 : UInt16), 7].Nodup ∧ start.lostAfter 7 false benchMoves = true ∧
    saved.cache.needsSave = false ∧
    (RecordCache.read 3 32 (RecordCache.empty.load [3, 7] saved.flash).1).1 = .ok (some ⟨1, [1]⟩) ∧
    (RecordCache.read 7 32 (RecordCache.empty.load [3, 7] saved.flash).1).1 = .ok (some ⟨1, [5]⟩) := by
  intro start saved
  have distinct : [(3 : UInt16), 7].Nodup := by decide
  obtain ⟨reads, -, -, durable⟩ := clean_save_is_durable .empty distinct benchChip benchMoves
  have done : ((start.after benchMoves).cache.save (start.after benchMoves).flash).1 = .ok () := by
    decide
  obtain ⟨clean, again⟩ := durable done
  have marked (key : UInt16) : (start.after benchMoves).marks key .save = true := by
    show ((start.after benchMoves).cache.collectRequested &&
      (Flash.eraseAll (start.after benchMoves).flash).1.isOk) = true
    decide
  have settled (key : UInt16) : start.lostAfter key false (benchMoves ++ [.save]) = false := by
    rw [lostAfter_concat]
    show (_ && !(start.after benchMoves).marks key .save) = false
    rw [marked, Bool.not_true, Bool.and_false]
  have readable : RecordCache.Readable [3, 7] benchChip := ⟨rfl, rfl, trivial⟩
  have back : saved.ReadsBack [3, 7] := (again settled).1 readable
  have fresh : RecordCache.Readable [3, 7] saved.flash := ⟨rfl, rfl, trivial⟩
  refine ⟨distinct, by decide, clean, ?_, ?_⟩
  · rw [back fresh 3 (.inl (by simp)) 32]
    decide
  · rw [back fresh 7 (.inl (by simp)) 32]
    decide

end Bench

end BackedCache

end BondedMouse
