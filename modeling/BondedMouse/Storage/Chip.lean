import BondedMouse.Storage.Flash
import BondedMouse.Storage.RecordMap

/-! # The flash chip

The chip keeps records as a map.  Switches make its operations fail; a region that was
filled takes nothing more until it is erased.
-/

namespace BondedMouse

structure Chip where
  items : RecordMap
  /-- The region has no room for another item. -/
  filled : Bool
  readFails : Bool
  writeFails : Bool
  eraseFails : Bool
  deriving DecidableEq

namespace Chip

def new (items : RecordMap) : Chip := ⟨items, false, false, false, false⟩

def fetch (key : UInt16) (chip : Chip) : Except FlashError (Option (List UInt8)) × Chip :=
  (if chip.readFails then .error .failed else .ok (chip.items.get? key), chip)

/-- Stores an item; the region is read before it is written. -/
def store (key : UInt16) (bytes : List UInt8) (chip : Chip) : Except FlashError Unit × Chip :=
  if chip.readFails || chip.writeFails then (.error .failed, chip)
  else if chip.filled then (.error .full, chip)
  else (.ok (), { chip with items := chip.items.insert key bytes })

def eraseAll (chip : Chip) : Except FlashError Unit × Chip :=
  if chip.eraseFails then (.error .failed, chip)
  else (.ok (), { chip with items := .empty, filled := false })

instance : Flash Chip where
  fetch := fetch
  store := store
  eraseAll := eraseAll

end Chip

end BondedMouse
