import BondedMouse.Advertising
import BondedMouse.Fault
import BondedMouse.Mouse.Report
import BondedMouse.Peer

/-! # The radio stack

The controller asks the radio stack for things and hears of their outcomes later, as
events.  Requests are data, so that a run's requests can be listed; each kind of
request comes with the codes that it tolerates.  The stack also holds the registry of
bonded peers, which is enumerated from one peer to the next.
-/

namespace BondedMouse

/-- The handle of a link. -/
structure LinkHandle where
  number : UInt16
  deriving DecidableEq, Repr

/-- An outcome that the radio stack or the record store reports. -/
inductive RadioEvent
  /-- A central connected; the peer is named if the registry knows it. -/
  | connected (peer : Option PeerId) (link : LinkHandle)
  /-- The link is gone, whoever closed it. -/
  | disconnected
  /-- The link to a bonded peer is secured, by a new bond or an old one. -/
  | bonded (peer : PeerId)
  /-- An advertising window ended without a connection. -/
  | timedOut (window : Window)
  /-- The record store is out of space. -/
  | storageFull
  /-- All bonds are erased. -/
  | bondsErased
  deriving DecidableEq

/-- What the controller asks of the radio stack. -/
inductive RadioRequest
  /-- Let only these peers connect to a whitelisted window. -/
  | whitelist (peers : List PeerId)
  /-- Resolve the private addresses of these peers. -/
  | identities (peers : List PeerId)
  | start (profile : Profile) (window : Window)
  | stop
  | disconnect (link : LinkHandle)
  | forgetBonds
  | movement (link : LinkHandle) (movement : Movement)
  deriving DecidableEq

/-- The codes that a request tolerates. -/
def RadioRequest.tolerated : RadioRequest → List StackError
  | .whitelist _ => []
  | .identities _ => [.notSupported]
  | .start _ _ => []
  | .stop => [.invalidState]
  | .disconnect _ => [.invalidState]
  | .forgetBonds => [.busy]
  | .movement _ _ => [.invalidState, .noResources, .sysAttrMissing, .busy]

/-- An environment with a radio stack. -/
class RadioStack (ε : Type) where
  request : RadioRequest → ε → Except StackError Unit × ε
  /-- The registry's peer behind the given one, or its first peer. -/
  nextPeer : ε → Option PeerId → Option PeerId

namespace Registry

/-- The largest whitelist that the radio stack takes. -/
def whitelistMax : Nat := 8

/-- The peers that an enumeration yields behind a cursor, at most `limit` of them. -/
def walk (next : Option PeerId → Option PeerId) : (limit : Nat) → Option PeerId → List PeerId
  | 0, _ => []
  | limit + 1, cursor =>
    match next cursor with
    | none => []
    | some peer => peer :: walk next limit (some peer)

variable {ε : Type} [RadioStack ε]

/-- The first peers of the registry, as many as a whitelist takes. -/
def whitelist (env : ε) : List PeerId :=
  walk (RadioStack.nextPeer env) whitelistMax none

/-- The registry enumerates the peer.  There are 255 peer numbers, so a registry without repeats
is enumerated in full. -/
def enumerates (env : ε) (peer : PeerId) : Bool :=
  (walk (RadioStack.nextPeer env) 255 none).contains peer

end Registry

end BondedMouse
