import BondedMouse.Peer

/-! # Modes, phases and the table of actions

What happens to a link or a window depends on the mode of advertising, on the phase
of the directed sequence and on the kind of event.  `transition` is that table; it is
total.
-/

namespace BondedMouse

/-- What the device advertises for. -/
inductive Mode
  /-- Nothing. -/
  | idle
  /-- Any new central: the open pairing window. -/
  | pairing
  /-- A sign of life of every bonded peer: the scan window of the directed sequence. -/
  | scan
  /-- One detected peer: a directed window of the sequence. -/
  | directed
  /-- Any bonded peer, after the directed sequence was given up. -/
  | anyBonded
  deriving DecidableEq, Repr

def Mode.all : List Mode := [.idle, .pairing, .scan, .directed, .anyBonded]

/-- The two halves of a pass of the directed sequence. -/
inductive Phase
  /-- Bonded peers are being detected. -/
  | scanning
  /-- Detected peers are offered windows. -/
  | connection
  deriving DecidableEq, Repr

def Phase.all : List Phase := [.scanning, .connection]

/-- A kind of outcome, as the table sees it. -/
inductive EventKind
  | peerConnecting
  | windowEnded
  | peerIntruding
  | strangerConnecting
  deriving DecidableEq, Repr

def EventKind.all : List EventKind :=
  [.peerConnecting, .windowEnded, .peerIntruding, .strangerConnecting]

/-- An outcome of a window. -/
inductive WindowEvent
  | peerConnecting (peer : PeerId)
  | windowEnded
  /-- A bonded peer came into a window that was not meant for bonded peers. -/
  | peerIntruding
  | strangerConnecting
  deriving DecidableEq

def WindowEvent.kind : WindowEvent → EventKind
  | .peerConnecting _ => .peerConnecting
  | .windowEnded => .windowEnded
  | .peerIntruding => .peerIntruding
  | .strangerConnecting => .strangerConnecting

inductive Action
  | ignore
  | dropLink
  /-- The window is used up. -/
  | endWindow
  /-- Note the peer as detected and drop its link. -/
  | noteDetection
  /-- Offer directed windows to the detected peers, or scan again. -/
  | turnToTargets
  /-- The peer that the window was meant for is here; keep the link. -/
  | keepLink
  /-- Turn to the next detected peer. -/
  | turnToNext
  deriving DecidableEq, Repr

/-- The action for each mode, phase and kind of event. -/
def transition (mode : Mode) (phase : Phase) (kind : EventKind) : Action :=
  match mode with
  | .idle => .ignore
  | .pairing =>
    match kind with
    | .peerIntruding => .dropLink
    | .strangerConnecting => .endWindow
    | .peerConnecting | .windowEnded => .ignore
  | .scan | .directed =>
    match phase, kind with
    | .scanning, .peerConnecting => .noteDetection
    | .scanning, .windowEnded => .turnToTargets
    | .connection, .peerConnecting => .keepLink
    | .connection, .windowEnded => .turnToNext
    | _, .strangerConnecting => .dropLink
    | _, .peerIntruding => .ignore
  | .anyBonded =>
    match kind with
    | .peerConnecting => .keepLink
    | .strangerConnecting => .dropLink
    | .windowEnded | .peerIntruding => .ignore

end BondedMouse
