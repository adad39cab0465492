import BondedMouse.Storage.Record

/-! # The budget of failed saves

Saves that keep failing are retried, but not for ever: the third failure in a row is
given up and reported.  A full region is collected before the next try.
-/

namespace BondedMouse

inductive SaveVerdict
  | done
  | retry
  /-- The region is full: collect it, then try again. -/
  | collect
  /-- Drop what is pending and report the error. -/
  | giveUp (error : StorageError)
  deriving DecidableEq, Repr

structure SaveBudget where
  failures : Nat
  deriving DecidableEq, Repr

namespace SaveBudget

def fresh : SaveBudget := ⟨0⟩

def count (budget : SaveBudget) : Except StorageError Unit → SaveVerdict × SaveBudget
  | .ok () => (.done, ⟨0⟩)
  | .error error =>
    if budget.failures + 1 ≥ storageTries then
      (.giveUp error, ⟨0⟩)
    else
      (match error with
        | .noSpace => .collect
        | .busy | .io => .retry,
      ⟨budget.failures + 1⟩)

end SaveBudget

end BondedMouse
