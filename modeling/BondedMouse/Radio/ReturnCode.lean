import BondedMouse.Fault

/-! # Return codes of the radio firmware

The radio firmware answers each call with a number: 0 for success, else a code.  Some
codes are told apart, the other codes of its list are passed on as numbers, and a
number outside the list counts as the unknown code.
-/

namespace BondedMouse.ReturnCode

/-- The codes of the radio firmware's list. -/
def known : List UInt32 :=
  [3, 4, 5, 6, 7, 8, 9, 12, 13, 14, 15, 16, 17, 18, 19,
    12290, 12291, 12802, 12803, 12804, 12805, 13313]

/-- The code that stands for every number outside the list. -/
def unknown : UInt32 := 4294967295

/-- The refusal that a code means. -/
def refusal (code : UInt32) : StackError :=
  match code with
  | 17 => .busy
  | 4 | 19 => .noResources
  | 8 => .invalidState
  | 13313 => .sysAttrMissing
  | 6 => .notSupported
  | other => .raw (if other ∈ known then other else unknown)

/-- The result that a call's answer means. -/
def result (code : UInt32) : Except StackError Unit :=
  if code = 0 then .ok () else .error (refusal code)

end BondedMouse.ReturnCode
