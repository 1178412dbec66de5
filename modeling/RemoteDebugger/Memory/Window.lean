import RemoteDebugger.Instruction.Basic

/-!
Memory windows: the sixteen bytes that one reply line carries. Reads of wider values are
little-endian and never wrap around the end of the window.
-/

set_option autoImplicit false

namespace RemoteDebugger

/-- Sixteen bytes and the monitor address of the first one. -/
structure Window where
  base : UInt32
  bytes : Vector UInt8 16
  deriving DecidableEq

def dwordOf (low high : UInt16) : UInt32 := low.toUInt32 ||| (high.toUInt32 <<< 16)

namespace Window

def byte? (window : Window) (index : Nat) : Option UInt8 := window.bytes[index]?

def word? (window : Window) (index : Nat) : Option UInt16 := do
  let low ← window.byte? index
  let high ← window.byte? (index + 1)
  pure (wordOf low high)

/-- The thirty-two bits whose lowest byte is at an index. -/
def dword? (window : Window) (index : Nat) : Option UInt32 := do
  let low ← window.word? index
  let high ← window.word? (index + 2)
  pure (dwordOf low high)

def firstByte (window : Window) : UInt8 := window.bytes[0]

def firstWord (window : Window) : UInt16 := wordOf window.bytes[0] window.bytes[1]

def firstDword (window : Window) : UInt32 :=
  dwordOf window.firstWord (wordOf window.bytes[2] window.bytes[3])

end Window

end RemoteDebugger
