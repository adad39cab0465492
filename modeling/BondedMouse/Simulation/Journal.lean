import BondedMouse.Radio.Stack
import BondedMouse.Storage.Record

/-! # Journals of calls

A journaled environment does what the environment inside it does and lists every
request to the radio stack and every call to the record store, in order and with its
result.
-/

namespace BondedMouse.Simulation

inductive Call
  | radio (request : RadioRequest) (result : Except StackError Unit)
  | read (key : UInt16) (result : Except StorageError (Option Reading))
  | write (key : UInt16) (bytes : List UInt8) (result : Except StorageError Unit)
  | reclaim (result : Except StorageError Unit)

structure Journaled (ε : Type) where
  env : ε
  /-- The calls so far, the latest last. -/
  calls : List Call

namespace Journaled

variable {ε : Type}

def new (env : ε) : Journaled ε := ⟨env, []⟩

def clear (journaled : Journaled ε) : Journaled ε := new journaled.env

/-- Makes a call and lists it with its result. -/
def note {α : Type} (call : α → Call) (effect : ε → α × ε) (journaled : Journaled ε) :
    α × Journaled ε :=
  let (result, env) := effect journaled.env
  (result, ⟨env, journaled.calls ++ [call result]⟩)

instance [RadioStack ε] : RadioStack (Journaled ε) where
  request request := note (.radio request) (RadioStack.request request)
  nextPeer journaled := RadioStack.nextPeer journaled.env

instance [RecordStore ε] : RecordStore (Journaled ε) where
  read key room := note (.read key) (RecordStore.read key room)
  write key bytes := note (.write key bytes) (RecordStore.write key bytes)
  reclaim := note .reclaim RecordStore.reclaim

end Journaled

end BondedMouse.Simulation
