/-! # Records by key

A finite map from 16-bit keys to byte strings.  A record that is inserted takes the
place of the one that was found under its key; `get?_insert` and `get?_erase` say that
no other key is touched.
-/

namespace BondedMouse

structure RecordMap where
  entries : List (UInt16 × List UInt8)
  deriving DecidableEq

namespace RecordMap

def empty : RecordMap := ⟨[]⟩

/-- The bytes of the first entry with a key. -/
def find? (key : UInt16) : List (UInt16 × List UInt8) → Option (List UInt8)
  | [] => none
  | (name, bytes) :: rest => if key = name then some bytes else find? key rest

def get? (map : RecordMap) (key : UInt16) : Option (List UInt8) :=
  find? key map.entries

def erase (map : RecordMap) (key : UInt16) : RecordMap :=
  ⟨map.entries.filter fun entry => entry.1 ≠ key⟩

def insert (map : RecordMap) (key : UInt16) (bytes : List UInt8) : RecordMap :=
  ⟨(key, bytes) :: (map.erase key).entries⟩

@[simp] theorem get?_empty (key : UInt16) : empty.get? key = none := rfl

theorem find?_filter (key other : UInt16) (entries : List (UInt16 × List UInt8)) :
    find? other (entries.filter fun entry => entry.1 ≠ key) =
      if other = key then none else find? other entries := by
  induction entries with
  | nil => simp [find?]
  | cons entry rest ih =>
    obtain ⟨name, bytes⟩ := entry
    by_cases erased : name = key
    · subst erased
      rw [List.filter_cons_of_neg (by simp), ih]
      by_cases found : other = name
      · simp [found]
      · simp [find?, found]
    · rw [List.filter_cons_of_pos (by simpa using erased)]
      by_cases found : other = name
      · subst found
        simp [find?, erased]
      · simpa [find?, found] using ih

theorem get?_erase (map : RecordMap) (key other : UInt16) :
    (map.erase key).get? other = if other = key then none else map.get? other :=
  find?_filter key other map.entries

theorem get?_insert (map : RecordMap) (key other : UInt16) (bytes : List UInt8) :
    (map.insert key bytes).get? other = if other = key then some bytes else map.get? other := by
  have erased := get?_erase map key other
  by_cases found : other = key
  · simp [insert, get?, find?, found]
  · simpa [insert, get?, find?, found] using erased

end RecordMap

end BondedMouse
