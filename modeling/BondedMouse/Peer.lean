/-! # Bonded peers

A bonded device is named by the byte under which the registry keeps it.  One byte
value is reserved: it marks a free place wherever peers are stored as bytes, so it
never names a peer.
-/

namespace BondedMouse

/-- The byte that marks a free place; erased flash reads the same. -/
def PeerId.free : UInt8 := 255

/-- A bonded device, by its registry number. -/
structure PeerId where
  raw : UInt8
  ne_free : raw ≠ PeerId.free
  deriving DecidableEq

namespace PeerId

/-- The peer that a byte names, if it names one. -/
def ofRaw? (raw : UInt8) : Option PeerId :=
  if h : raw ≠ free then some ⟨raw, h⟩ else none

/-- The byte of a place that holds a peer or is free. -/
def slotByte : Option PeerId → UInt8
  | none => free
  | some peer => peer.raw

@[simp] theorem ofRaw?_free : ofRaw? free = none := rfl

@[simp] theorem ofRaw?_raw (peer : PeerId) : ofRaw? peer.raw = some peer := by
  simp [ofRaw?, peer.ne_free]

@[simp] theorem ofRaw?_slotByte (place : Option PeerId) : ofRaw? (slotByte place) = place := by
  cases place <;> simp [slotByte]

@[simp] theorem slotByte_ofRaw? (raw : UInt8) : slotByte (ofRaw? raw) = raw := by
  unfold ofRaw?
  split
  · rfl
  · next h => simpa [slotByte] using (Decidable.not_not.1 h).symm

theorem slotByte_injective {left right : Option PeerId} (h : slotByte left = slotByte right) :
    left = right := by
  rw [← ofRaw?_slotByte left, h, ofRaw?_slotByte]

end PeerId

end BondedMouse
