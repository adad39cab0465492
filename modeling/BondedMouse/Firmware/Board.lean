import BondedMouse.Fault
import BondedMouse.Security.Address

/-! # The board

What the firmware's tasks see of the hardware: a clock in milliseconds, the levels of
the pins, the outcomes that the radio has in store for advertising, the link that came
up last, and the return codes of the radio's calls.  The board lists the calls made
to it.
-/

namespace BondedMouse

/-- What ends a running advertisement. -/
inductive Outcome
  /-- A central connected.  A link without a handle is down at once. -/
  | connected (address : Address) (handle : Option UInt16)
  | timeout
  | noFreeLink
  | failed (code : UInt32)
  deriving DecidableEq

/-- A link as the hardware has it; the handle is gone once the link is down. -/
structure HardwareLink where
  address : Address
  handle : Option UInt16
  deriving DecidableEq

inductive Interrupt
  | pins
  | time
  | tick
  deriving DecidableEq, Repr

structure RadioSetup where
  clockSource : Nat
  calibrationInterval : Nat
  temperatureInterval : Nat
  clockAccuracy : Nat
  linkCount : Nat
  eventLength : Nat
  packetSize : Nat
  attributeTableSize : Nat
  advertisingSets : Nat
  peripheralRoles : Nat
  centralRoles : Nat
  centralSecurityRoles : Nat
  roleFlags : Nat
  nameWritePermission : Nat
  nameFlags : Nat
  name : String
  deriving DecidableEq, Repr

/-- The numbers of a set-up in the order in which the radio takes them. -/
def RadioSetup.numbers (setup : RadioSetup) : List Nat := [
  setup.clockSource, setup.calibrationInterval, setup.temperatureInterval, setup.clockAccuracy,
  setup.linkCount, setup.eventLength, setup.packetSize, setup.attributeTableSize,
  setup.advertisingSets, setup.peripheralRoles, setup.centralRoles, setup.centralSecurityRoles,
  setup.roleFlags, setup.name.utf8ByteSize, setup.name.utf8ByteSize, setup.nameWritePermission,
  setup.nameFlags]

inductive BoardCall
  | whitelist (addresses : List Address)
  | identities (identities : List Identity)
  | disconnect (handle : UInt16) (reason : UInt8)
  | notify (handle report : UInt16) (bytes : Vector UInt8 3)
  /-- Advertising starts: the interval, the timeout in units of 10 ms, whether only whitelisted
  centrals may scan and connect, and the two payloads. -/
  | advertise (interval : UInt16) (timeout : Option UInt16) (whitelisted : Bool)
    (payload scanPayload : List UInt8)
  /-- A running advertisement is ended by the firmware. -/
  | advertiseDropped
  | inputPin (pin : Nat)
  | priority (interrupt : Interrupt) (level : Nat)
  | enable (setup : RadioSetup)
  deriving DecidableEq

/-- The answers of the radio's calls; 0 is success. -/
structure ReturnCodes where
  whitelist : UInt32 := 0
  identities : UInt32 := 0
  disconnect : UInt32 := 0
  notify : UInt32 := 0
  /-- Notifications find the link down. -/
  notifyDisconnected : Bool := false
  deriving DecidableEq

structure Board where
  clock : Nat
  lowPins : List Nat
  /-- The outcomes of advertisements to come, the next first. -/
  outcomes : List Outcome
  /-- The link that came up last. -/
  link : Option HardwareLink
  codes : ReturnCodes
  /-- The calls so far, the latest last. -/
  calls : List BoardCall
  deriving DecidableEq

namespace Board

def powerOff : Board := ⟨0, [], [], none, {}, []⟩

def note (board : Board) (call : BoardCall) : Board :=
  { board with calls := board.calls ++ [call] }

def clearCalls (board : Board) : Board :=
  { board with calls := [] }

def isLow (board : Board) (pin : Nat) : Bool :=
  board.lowPins.contains pin

def setPin (board : Board) (pin : Nat) (low : Bool) : Board :=
  let others := board.lowPins.filter (· != pin)
  { board with lowPins := if low then pin :: others else others }

def addOutcome (board : Board) (outcome : Outcome) : Board :=
  { board with outcomes := board.outcomes ++ [outcome] }

/-- The handle of the link that came up last, while it is up. -/
def linkHandle? (board : Board) : Option UInt16 :=
  board.link.bind HardwareLink.handle

/-- The address of the central at the other end of the link that came up last, while it is up. -/
def linkAddress? (board : Board) : Option Address :=
  match board.link with
  | some ⟨address, some _⟩ => some address
  | some ⟨_, none⟩ | none => none

def dropLink (board : Board) : Board :=
  { board with link := board.link.map fun link => { link with handle := none } }

def advanceClock (board : Board) : Board :=
  { board with clock := board.clock + 1 }

end Board

end BondedMouse
