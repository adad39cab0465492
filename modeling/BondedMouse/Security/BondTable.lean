import BondedMouse.Peer
import BondedMouse.Security.Address

/-! # The registry of bonds

The registry has eight slots, and a peer is named by the number of its slot.  A new
bond replaces the one of the same device, which is known by its master identifier or
by its identity; else it takes the first free slot.
-/

namespace BondedMouse

/-- The identifier under which a device asks for its long term key. -/
structure MasterId where
  diversifier : UInt16
  random : Vector UInt8 8
  deriving DecidableEq

structure LinkKey where
  bytes : Vector UInt8 16
  deriving DecidableEq

structure Bond where
  master : MasterId
  key : LinkKey
  identity : Identity
  deriving DecidableEq

/-- How strongly a link is secured. -/
inductive SecurityMode
  | noAccess
  | unencrypted
  | justWorks
  | mitm
  | lescMitm
  | signed
  | signedMitm
  deriving DecidableEq, Repr

def SecurityMode.isSecured : SecurityMode → Bool
  | .noAccess | .unencrypted => false
  | .justWorks | .mitm | .lescMitm | .signed | .signedMitm => true

/-- What a device can do to confirm a pairing. -/
inductive PairingAbility
  | none
  deriving DecidableEq, Repr

/-- The number of bonds that the registry holds. -/
abbrev BondTable.capacity : Nat := 8

structure BondTable where
  slots : Vector (Option Bond) BondTable.capacity
  deriving DecidableEq

namespace BondTable

/-- The device has neither display nor keys to confirm a pairing with. -/
def pairingAbility : PairingAbility := .none

/-- Every device may bond. -/
def acceptsBonds : Bool := true

def empty : BondTable := ⟨Vector.replicate capacity none⟩

def peerOf (slot : Fin capacity) : PeerId where
  raw := UInt8.ofNat slot
  ne_free := by revert slot; decide

def bond? (table : BondTable) (peer : PeerId) : Option Bond :=
  (table.slots[peer.raw.toNat]?).join

/-- Peers are told apart by their slots. -/
theorem peerOf_injective {slot other : Fin capacity} (same : peerOf slot = peerOf other) :
    slot = other := by
  have raw : UInt8.ofNat slot = UInt8.ofNat other := congrArg PeerId.raw same
  revert slot other
  decide

@[simp] theorem bond?_peerOf (table : BondTable) (slot : Fin capacity) :
    table.bond? (peerOf slot) = table.slots[slot] := by
  have small : slot.val % 256 = slot.val :=
    Nat.mod_eq_of_lt (Nat.lt_trans slot.isLt (by decide))
  simp [bond?, peerOf, small]

def peerShowing? (table : BondTable) (address : Address) : Option PeerId :=
  (table.slots.findFinIdx? (·.any (·.identity.isMatch address))).map peerOf

/-- The first peer behind a peer, or the first of all, in the order of the slots. -/
def next? (table : BondTable) (after : Option PeerId) : Option PeerId :=
  let start := match after with
    | none => 0
    | some peer => peer.raw.toNat + 1
  ((List.finRange capacity).find? fun slot =>
    start ≤ slot.val && (table.slots[slot]).isSome).map peerOf

/-- The slot of a bond's device. -/
def slotOf? (table : BondTable) (bond : Bond) : Option (Fin capacity) :=
  table.slots.findFinIdx?
    (·.any fun held => held.master == bond.master || held.identity.isMatch bond.identity.address)

/-- The slot that a bond takes: that of its device, else the first free one. -/
def slotFor? (table : BondTable) (bond : Bond) : Option (Fin capacity) :=
  (table.slotOf? bond).or (table.slots.findFinIdx? (·.isNone))

/-- Keeps a bond, and names its peer; `none` if all slots belong to other devices. -/
def keep (table : BondTable) (bond : Bond) : Option PeerId × BondTable :=
  match table.slotFor? bond with
  | some slot => (some (peerOf slot), ⟨table.slots.set slot (some bond)⟩)
  | none => (none, table)

def toList (table : BondTable) : List Bond :=
  table.slots.toList.filterMap id

/-- The long term key of a master identifier. -/
def keyFor? (table : BondTable) (master : MasterId) : Option LinkKey :=
  (table.toList.find? (·.master == master)).map Bond.key

/-- The key to encrypt a link with, for the device that shows an address. -/
def keyForAddress? (table : BondTable) (address : Address) : Option (MasterId × LinkKey) :=
  (table.toList.find? (·.identity.isMatch address)).map fun bond => (bond.master, bond.key)

def peers (table : BondTable) : List PeerId :=
  ((List.finRange capacity).filter fun slot => (table.slots[slot]).isSome).map peerOf

end BondTable

end BondedMouse
