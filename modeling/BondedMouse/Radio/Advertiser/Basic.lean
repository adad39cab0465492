import BondedMouse.Radio.Unit

/-! # The advertiser

The advertiser is the task that runs advertising windows on command, holds the link
that comes out of one, and reports outcomes as events.  It is a machine with one state
for each place at which it can wait.

`step?` makes one move, or none where the task has to wait.  A command ends a running
window.  While a link is held the latest command is kept for the time after it.
-/

namespace BondedMouse

inductive Advertiser
  /-- Between windows, with the command to be done next. -/
  | ready (kept : Option AdvertiserCommand)
  /-- A window, whose advertisement may not have started yet. -/
  | advertising (profile : Profile) (window : Window) (started : Bool)
  /-- A window has run out, which is to be reported. -/
  | announcing (window : Window)
  /-- A link has come up, which is to be reported. -/
  | connecting (peer : Option PeerId) (handle : UInt16)
  /-- The link is held and looked at when the deadline comes; without a deadline, now. -/
  | holding (kept : Option AdvertiserCommand) (deadline : Option Nat)
  /-- The link has gone, which is to be reported. -/
  | closing (kept : Option AdvertiserCommand)
  deriving DecidableEq

namespace Advertiser

/-- How often a held link is looked at, in milliseconds. -/
def linkPoll : Nat := 50

/-- The payload of advertisements: general discoverability, the service of input devices and
the appearance of a mouse. -/
def payload : List UInt8 := [2, 1, 6, 3, 3, 0x12, 0x18, 3, 0x19, 0xC2, 3]

/-- The payload of scan responses: the name "BLE Mouse". -/
def scanPayload : List UInt8 := [10, 9, 66, 76, 69, 32, 77, 111, 117, 115, 101]

/-- The timeout of a window in units of 10 ms, the largest where it does not fit. -/
def timeoutOf (profile : Profile) : Option UInt16 :=
  if profile.isTimed then some (UInt16.ofNat (min (profile.seconds.toNat * 100) 65535)) else none

def new : Advertiser := .ready none

/-- The radio is advertising. -/
def isAdvertising : Advertiser → Bool
  | .advertising _ _ started => started
  | _ => false

/-! ## Single moves -/

/-- An advertisement has ended with an outcome.  A link that is down at once counts as none. -/
def take (unit : RadioUnit) (window : Window) : Outcome → RadioUnit × Advertiser
  | .connected address handle =>
    let unit := { unit with board := { unit.board with link := some ⟨address, handle⟩ } }
    match handle with
    | none => (unit, .announcing window)
    | some handle =>
      ({ unit with holdsLink := true }, .connecting (unit.bonds.peerShowing? address) handle)
  | .timeout | .noFreeLink | .failed _ => (unit, .announcing window)

/-- A move inside a window: a command ends it, else the advertisement starts or takes its
outcome. -/
def stepWindow? (unit : RadioUnit) (profile : Profile) (window : Window) (started : Bool) :
    Option (RadioUnit × Advertiser) :=
  match unit.commands.receive? with
  | some (command, commands) =>
    let board := if started then unit.board.note .advertiseDropped else unit.board
    some ({ unit with commands, board }, .ready (some command))
  | none =>
    if started then
      match unit.board.outcomes with
      | [] => none
      | outcome :: outcomes =>
        some (take { unit with board := { unit.board with outcomes } } window outcome)
    else
      let call := .advertise profile.interval (timeoutOf profile) profile.whitelisted payload
        scanPayload
      some ({ unit with board := unit.board.note call }, .advertising profile window true)

/-- A move while a link is held: it is looked at, or a command replaces the one that is kept. -/
def stepLink? (unit : RadioUnit) (kept : Option AdvertiserCommand) :
    (deadline : Option Nat) → Option (RadioUnit × Advertiser)
  | none =>
    if unit.board.linkHandle?.isSome then
      some (unit, .holding kept (some (unit.board.clock + linkPoll)))
    else
      some ({ unit with holdsLink := false }, .closing kept)
  | some deadline =>
    match unit.commands.receive? with
    | some (command, commands) => some ({ unit with commands }, .holding (some command) none)
    | none => if deadline ≤ unit.board.clock then some (unit, .holding kept none) else none

/-- Reports an event as soon as there is room for it. -/
def report? (unit : RadioUnit) (event : RadioEvent) (next : Advertiser) :
    Option (RadioUnit × Advertiser) :=
  (unit.events.send? event).map fun events => ({ unit with events }, next)

def step? (unit : RadioUnit) : Advertiser → Option (RadioUnit × Advertiser)
  | .ready none =>
    unit.commands.receive?.map fun (command, commands) =>
      ({ unit with commands }, .ready (some command))
  | .ready (some .stop) => some (unit, .ready none)
  | .ready (some (.start profile window)) => some (unit, .advertising profile window false)
  | .advertising profile window started => stepWindow? unit profile window started
  | .announcing window => report? unit (.timedOut window) (.ready none)
  | .connecting peer handle => report? unit (.connected peer ⟨handle⟩) (.holding none none)
  | .holding kept deadline => stepLink? unit kept deadline
  | .closing kept => report? unit .disconnected (.ready kept)

end Advertiser

end BondedMouse
