/-! # Movement reports

A movement is reported in three bytes, as two signed fields of twelve bits: X in the
low twelve bits and Y above it, lowest byte first.
-/

namespace BondedMouse

/-- A relative movement of the cursor. -/
structure Movement where
  dx : Int16
  dy : Int16
  deriving DecidableEq, Repr

namespace Movement

/-- The number of bytes of a report. -/
def reportSize : Nat := 3

/-- The nearest value that a field of twelve bits holds. -/
def clamp (delta : Int16) : Int16 :=
  if delta < -2048 then -2048 else if 2047 < delta then 2047 else delta

/-- The twelve bits of a field. -/
def field (delta : Int16) : UInt16 :=
  (clamp delta).toUInt16 &&& 0x0FFF

/-- The three bytes of a report. -/
def pack (movement : Movement) : Vector UInt8 3 :=
  let x := field movement.dx
  let y := field movement.dy
  #v[(x &&& 0x00FF).toUInt8,
    (((y &&& 0x000F) <<< 4) ||| ((x &&& 0x0F00) >>> 8)).toUInt8,
    ((y &&& 0x0FF0) >>> 4).toUInt8]

end Movement

end BondedMouse
