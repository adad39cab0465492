/-! # Device addresses and identities

A device shows an address of one of five kinds.  A resolvable address hides the
device from all but those who hold its identity key: they can tell that the address
was made from the key.
-/

namespace BondedMouse

inductive AddressKind
  | publicDevice
  | randomStatic
  | resolvable
  | nonResolvable
  | anonymous
  deriving DecidableEq, Repr

structure Address where
  kind : AddressKind
  bytes : Vector UInt8 6
  deriving DecidableEq

/-- A device's identity: the key that its resolvable addresses are made from, and its identity
address. -/
structure Identity where
  key : Vector UInt8 16
  address : Address
  deriving DecidableEq

/-- The three bytes of a resolvable address that belong to its other three.  This stands in for the
hash of the radio stack, which enciphers the three with the key; no theorem depends on how it is
computed. -/
def Identity.hash (identity : Identity) (b3 b4 b5 : UInt8) : UInt8 × UInt8 × UInt8 :=
  (b3 ^^^ identity.key[0], b4 ^^^ identity.key[1], b5 ^^^ identity.key[2])

/-- The identity's device shows the address.  Addresses that are neither fixed nor resolvable
belong to nobody. -/
def Identity.isMatch (identity : Identity) (address : Address) : Bool :=
  match address.kind with
  | .publicDevice | .randomStatic => identity.address = address
  | .resolvable =>
    (address.bytes[0], address.bytes[1], address.bytes[2]) =
      identity.hash address.bytes[3] address.bytes[4] address.bytes[5]
  | .nonResolvable | .anonymous => false

end BondedMouse
