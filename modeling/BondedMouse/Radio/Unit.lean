import BondedMouse.Channel
import BondedMouse.Firmware.Board
import BondedMouse.Radio.ReturnCode
import BondedMouse.Radio.Stack
import BondedMouse.Security.BondTable

/-! # The radio unit

The firmware's radio stack.  Whitelist, identities and the dropping of a link go to
the hardware at once.  Starting and stopping of advertising are posted as commands to
the advertiser, and what becomes of them comes back as events.
-/

namespace BondedMouse

/-- What the advertiser is told to do. -/
inductive AdvertiserCommand
  | start (profile : Profile) (window : Window)
  | stop
  deriving DecidableEq, Repr

/-- A list as the radio firmware takes it: where the items stand, nowhere if there are none, and
their number in one byte. -/
structure RawList (α : Type) where
  start : Option (List α)
  count : UInt8
  deriving DecidableEq

namespace RawList

variable {α : Type}

def of (items : List α) : RawList α where
  start := if items.isEmpty then none else some items
  count := UInt8.ofNat items.length

/-- The items that the radio firmware reads. -/
def read (list : RawList α) : List α :=
  (list.start.getD []).take list.count.toNat

end RawList

structure RadioUnit where
  board : Board
  bonds : BondTable
  /-- The advertiser holds the link that came up last. -/
  holdsLink : Bool
  commands : Channel AdvertiserCommand 4
  events : Channel RadioEvent 8
  /-- The value handle of movement reports, if they are exposed. -/
  reportHandle : Option UInt16

namespace RadioUnit

/-- The reason that is given for dropping a link: the user ended it. -/
def userEnded : UInt8 := 19

def new (board : Board) (reportHandle : Option UInt16) : RadioUnit :=
  ⟨board, .empty, false, .empty, .empty, reportHandle⟩

/-- Posts an event; it is lost if the channel is full. -/
def postEvent (unit : RadioUnit) (event : RadioEvent) : RadioUnit :=
  { unit with events := unit.events.sendOrDrop event }

/-- Calls the hardware, which answers with a return code. -/
def call (unit : RadioUnit) (call : BoardCall) (code : UInt32) :
    Except StackError Unit × RadioUnit :=
  (ReturnCode.result code, { unit with board := unit.board.note call })

/-- The identities of those peers that have a bond. -/
def identities (unit : RadioUnit) (peers : List PeerId) : List Identity :=
  peers.filterMap fun peer => (unit.bonds.bond? peer).map Bond.identity

/-- The whitelist of those peers that have a bond. -/
def addressList (unit : RadioUnit) (peers : List PeerId) : RawList Address :=
  .of ((unit.identities peers).map Identity.address)

def identityList (unit : RadioUnit) (peers : List PeerId) : RawList Identity :=
  .of (unit.identities peers)

/-- Posts a command to the advertiser. -/
def postCommand (unit : RadioUnit) (command : AdvertiserCommand) :
    Except StackError Unit × RadioUnit :=
  match unit.commands.send? command with
  | some commands => (.ok (), { unit with commands })
  | none => (.error .noResources, unit)

/-- The link with a handle is held and up. -/
def holds (unit : RadioUnit) (link : LinkHandle) : Bool :=
  unit.holdsLink && unit.board.linkHandle? == some link.number

/-- Sends a movement report over a held link. -/
def moveCursor (unit : RadioUnit) (link : LinkHandle) (movement : Movement) :
    Except StackError Unit × RadioUnit :=
  match unit.reportHandle with
  | none => (.error .invalidState, unit)
  | some report =>
    if !unit.holds link || unit.board.codes.notifyDisconnected then (.error .invalidState, unit)
    else unit.call (.notify link.number report movement.pack) unit.board.codes.notify

def request (request : RadioRequest) (unit : RadioUnit) : Except StackError Unit × RadioUnit :=
  match request with
  | .whitelist peers =>
    unit.call (.whitelist (unit.addressList peers).read) unit.board.codes.whitelist
  | .identities peers =>
    unit.call (.identities (unit.identityList peers).read) unit.board.codes.identities
  | .start profile window => unit.postCommand (.start profile window)
  | .stop => unit.postCommand .stop
  | .disconnect link =>
    unit.call (.disconnect link.number userEnded) unit.board.codes.disconnect
  | .forgetBonds => (.ok (), { unit with bonds := .empty }.postEvent .bondsErased)
  | .movement link movement => unit.moveCursor link movement

instance : RadioStack RadioUnit where
  request := request
  nextPeer unit := unit.bonds.next?

/-! ## Security -/

/-- A central has bonded. -/
def onBonded (unit : RadioUnit) (bond : Bond) : RadioUnit :=
  match unit.bonds.keep bond with
  | (some peer, bonds) => { unit with bonds }.postEvent (.bonded peer)
  | (none, _) => unit

/-- The security of a link has changed.  A secured link of a known peer counts as bonded. -/
def onSecurity (unit : RadioUnit) (address : Address) (mode : SecurityMode) : RadioUnit :=
  if mode.isSecured then
    match unit.bonds.peerShowing? address with
    | some peer => unit.postEvent (.bonded peer)
    | none => unit
  else
    unit

end RadioUnit

end BondedMouse
