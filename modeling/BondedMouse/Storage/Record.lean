import BondedMouse.Fault

/-! # Record stores

A record store keeps byte strings under 16-bit keys.  The controller knows it only
through the class below; every call may change the environment in which it runs.
-/

namespace BondedMouse

/-- What a read puts into the caller's buffer: the length of the whole record and the bytes of
it that fit. -/
structure Reading where
  length : Nat
  bytes : List UInt8
  deriving DecidableEq, Repr

class RecordStore (ε : Type) where
  /-- Reads the record under a key into a buffer with the given room. -/
  read : (key : UInt16) → (room : Nat) → ε → Except StorageError (Option Reading) × ε
  write : (key : UInt16) → (bytes : List UInt8) → ε → Except StorageError Unit × ε
  /-- Asks for the space of superseded records. -/
  reclaim : ε → Except StorageError Unit × ε

/-- How often a failing store is tried before the failure is given up and reported. -/
def storageTries : Nat := 3

end BondedMouse
