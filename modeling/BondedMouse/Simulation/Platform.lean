import BondedMouse.Radio.Stack
import BondedMouse.Storage.Record
import BondedMouse.Storage.RecordMap

/-! # A platform in memory

A radio stack and a record store that live in memory and fail on demand.  The registry
is a list of peers; a bond erasure that succeeds empties it.
-/

namespace BondedMouse.Simulation

structure Failures where
  whitelist : Option StackError := none
  identities : Option StackError := none
  start : Option StackError := none
  stop : Option StackError := none
  disconnect : Option StackError := none
  forgetBonds : Option StackError := none
  movement : Option StackError := none
  /-- How many requests that would fail still succeed. -/
  spared : Nat := 0
  read : Option StorageError := none
  write : Option StorageError := none
  collect : Option StorageError := none
  /-- How many writes find the store busy. -/
  busyWrites : Nat := 0
  /-- A read into a buffer that is too small fills it instead of failing. -/
  truncates : Bool := false

def Failures.forRequest (failures : Failures) : RadioRequest → Option StackError
  | .whitelist _ => failures.whitelist
  | .identities _ => failures.identities
  | .start _ _ => failures.start
  | .stop => failures.stop
  | .disconnect _ => failures.disconnect
  | .forgetBonds => failures.forgetBonds
  | .movement _ _ => failures.movement

structure Platform where
  registry : List PeerId
  records : RecordMap
  failures : Failures

namespace Platform

def new (registry : List PeerId) (records : RecordMap) : Platform := ⟨registry, records, {}⟩

def accept (platform : Platform) : RadioRequest → Platform
  | .forgetBonds => { platform with registry := [] }
  | _ => platform

def request (request : RadioRequest) (platform : Platform) : Except StackError Unit × Platform :=
  match platform.failures.forRequest request, platform.failures.spared with
  | none, _ => (.ok (), platform.accept request)
  | some error, 0 => (.error error, platform)
  | some _, spared + 1 =>
    (.ok (), { platform with failures := { platform.failures with spared } }.accept request)

/-- The first peer of the registry, or the one behind the first place of a peer. -/
def nextPeer (platform : Platform) : Option PeerId → Option PeerId
  | none => platform.registry.head?
  | some peer => (platform.registry.dropWhile (· != peer))[1]?

def read (key : UInt16) (room : Nat) (platform : Platform) :
    Except StorageError (Option Reading) × Platform :=
  let result := match platform.failures.read, platform.records.get? key with
    | some error, _ => .error error
    | none, none => .ok none
    | none, some bytes =>
      if bytes.length ≤ room ∨ platform.failures.truncates then
        .ok (some ⟨bytes.length, bytes.take room⟩)
      else
        .error .noSpace
  (result, platform)

def write (key : UInt16) (bytes : List UInt8) (platform : Platform) :
    Except StorageError Unit × Platform :=
  match platform.failures.write, platform.failures.busyWrites with
  | some error, _ => (.error error, platform)
  | none, busyWrites + 1 =>
    (.error .busy, { platform with failures := { platform.failures with busyWrites } })
  | none, 0 => (.ok (), { platform with records := platform.records.insert key bytes })

def reclaim (platform : Platform) : Except StorageError Unit × Platform :=
  match platform.failures.collect with
  | some error => (.error error, platform)
  | none => (.ok (), platform)

instance : RadioStack Platform where
  request := request
  nextPeer := nextPeer

instance : RecordStore Platform where
  read := read
  write := write
  reclaim := reclaim

end Platform

end BondedMouse.Simulation
