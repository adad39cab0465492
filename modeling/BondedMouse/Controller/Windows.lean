import BondedMouse.Controller.Basic

/-! # Opening and ending windows

Each change of mode opens a window: it stops the one before, hands the stack the
whitelist, and starts advertising or, while there is a link, asks for the link to be
dropped first.  Each window takes a number, also one that turns into another because
the registry is empty or the target is missing.
-/

namespace BondedMouse.Controller

variable {ε : Type} [RadioStack ε]

/-! ## Link and advertising -/

/-- Asks for the link to be dropped, once. -/
def dropLink : ControlM ε Unit := do
  match (← get).link with
  | .up handle =>
    modify fun device => { device with link := .closing handle }
    ask (.disconnect handle)
  | .down | .closing _ => pure ()

def startRadio : ControlM ε Unit := do
  modify fun device => { device with running := true }
  let device ← get
  ask (.start device.profile device.window)

def stopRadio : ControlM ε Unit := do
  modify fun device => { device with running := false }
  ask .stop

/-- Wants advertising, and starts it if no link stands in the way. -/
def advertise : ControlM ε Unit := do
  modify fun device => { device with wanted := true }
  let device ← get
  match device.link with
  | .up _ => dropLink
  | .closing _ => pure ()
  | .down => if device.running then pure () else startRadio

/-- Wants no advertising, and stops what runs. -/
def silence : ControlM ε Unit := do
  modify fun device => { device with wanted := false }
  let device ← get
  if device.link = .down ∧ device.running then stopRadio

def sendWhitelist : ControlM ε Unit := do
  ask (.whitelist (← get).whitelist)
  ask (.identities (← get).whitelist)

/-! ## Windows by mode -/

def countWindow : ControlM ε Unit :=
  modify fun device => { device with window := device.window.next }

/-- Puts the window into force that whitelist and profile describe. -/
def enter (mode : Mode) : ControlM ε Unit := do
  modify fun device => { device with mode }
  silence
  sendWhitelist
  advertise

def whitelistRegistry : ControlM ε Unit :=
  modify fun device => { device with whitelist := Registry.whitelist device.env }

def rest : ControlM ε Unit := do
  countWindow
  modify fun device => { device with mode := .idle }
  silence

def openPairing : ControlM ε Unit := do
  countWindow
  modify fun device => { device with whitelist := [], profile := .pairing }
  enter .pairing

/-- Opens a scan window for the whole registry and sets its timer. -/
def openScan : ControlM ε Unit := do
  countWindow
  whitelistRegistry
  if (← get).whitelist.isEmpty then
    openPairing
  else
    modify fun device => { device with
      sequence := device.sequence.restart
      timers := device.timers.arm device.scanTimer scanTime
      profile := .scan }
    enter .scan

def openDirected (peer : PeerId) : ControlM ε Unit := do
  countWindow
  modify fun device => { device with whitelist := [peer], profile := .directed }
  enter .directed

/-- Opens a window for the whole registry, in which the first peer keeps its link. -/
def openAnyBonded : ControlM ε Unit := do
  countWindow
  whitelistRegistry
  if (← get).whitelist.isEmpty then
    openPairing
  else
    modify fun device => { device with profile := .scan }
    enter .anyBonded

/-- Changes the mode.  The target is the peer of a directed window; without one the device scans
again. -/
def setMode (mode : Mode) (target : Option PeerId) : ControlM ε Unit :=
  match mode with
  | .idle => rest
  | .pairing => openPairing
  | .scan => openScan
  | .directed =>
    match target with
    | some peer => openDirected peer
    | none => do
      countWindow
      openScan
  | .anyBonded => openAnyBonded

def startSequence : ControlM ε Unit := do
  modify fun device => { device with sequence := .fresh }
  openScan

end BondedMouse.Controller
