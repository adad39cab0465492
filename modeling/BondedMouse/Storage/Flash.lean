/-! # Flash regions

A region of flash keeps records under 16-bit keys.  Each of its operations may fail;
then the caller learns only whether the region was full or something else went wrong.
-/

namespace BondedMouse

/-- Why a region refuses an operation. -/
inductive FlashError
  | full
  | failed
  deriving DecidableEq, Repr

class Flash (φ : Type) where
  fetch : (key : UInt16) → φ → Except FlashError (Option (List UInt8)) × φ
  /-- Stores a record in place of the key's present one. -/
  store : (key : UInt16) → (bytes : List UInt8) → φ → Except FlashError Unit × φ
  eraseAll : φ → Except FlashError Unit × φ

namespace Flash

def firstPage : Nat := 254

def pageCount : Nat := 2

end Flash

end BondedMouse
