/-! # Advertising windows

A window is one stretch of advertising.  Its profile says how it is advertised and
for how long; its number tells its timeout from the timeout of any other recent
window.
-/

namespace BondedMouse

structure Profile where
  /-- The advertising interval, in units of 0.625 ms. -/
  interval : UInt16
  /-- The length of the window in seconds; a window of length 0 runs until it is stopped. -/
  seconds : UInt16
  whitelisted : Bool
  deriving DecidableEq, Repr

namespace Profile

/-- The interval of fast advertising, 21.875 ms. -/
def fastInterval : UInt16 := 35

/-- The profile of scan windows and of the window open to every bonded peer. -/
def scan : Profile := ⟨fastInterval, 0, true⟩

def directed : Profile := ⟨fastInterval, 10, true⟩

def pairing : Profile := ⟨fastInterval, 60, false⟩

def isTimed (profile : Profile) : Bool :=
  profile.seconds != 0

end Profile

/-- The number of an advertising window.  Numbers are reused after 65536 windows. -/
structure Window where
  number : UInt16
  deriving DecidableEq, Repr

namespace Window

/-- The number in force before the first window is opened. -/
def first : Window := ⟨0⟩

def next (window : Window) : Window := ⟨window.number + 1⟩

end Window

end BondedMouse
