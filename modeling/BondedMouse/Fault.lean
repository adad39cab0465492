/-! # Faults

What can go wrong, by cause: a call to the radio stack, a call to the record store,
or a fixed pool that is used up.  Each call to the radio stack has a list of codes
that it tolerates; any other code is a fault.
-/

namespace BondedMouse

inductive StackError
  | busy
  | noResources
  | invalidState
  | sysAttrMissing
  | notSupported
  /-- Any other code of the stack. -/
  | raw (code : UInt32)
  deriving DecidableEq, Repr

inductive StorageError
  /-- The store cannot take the request at present. -/
  | busy
  | noSpace
  | io
  deriving DecidableEq, Repr

inductive Fault
  /-- A stack call failed with a code that it does not tolerate. -/
  | stack (error : StackError)
  | storage (error : StorageError)
  /-- Every timer slot is registered. -/
  | timersExhausted
  /-- Every ranking of the pool is in use. -/
  | rankingsExhausted
  deriving DecidableEq, Repr

/-- The device has to be reset.  After a storage fault it keeps running on what it holds
in memory. -/
def Fault.needsReset : Fault → Bool
  | .storage _ => false
  | .stack _ | .timersExhausted | .rankingsExhausted => true

/-- The result of a stack call, with the tolerated codes counted as success. -/
def tolerate (allowed : List StackError) : Except StackError Unit → Except Fault Unit
  | .ok () => .ok ()
  | .error error => if error ∈ allowed then .ok () else .error (.stack error)

theorem tolerate_eq_error_iff {allowed : List StackError} {result : Except StackError Unit}
    {fault : Fault} :
    tolerate allowed result = .error fault ↔
      ∃ error, result = .error error ∧ error ∉ allowed ∧ fault = .stack error := by
  cases result with
  | ok => simp [tolerate]
  | error error => by_cases h : error ∈ allowed <;> simp [tolerate, h, eq_comm]

end BondedMouse
