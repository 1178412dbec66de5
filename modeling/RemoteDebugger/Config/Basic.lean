import RemoteDebugger.Text.Basic

/-!
Settings of a session.
-/

set_option autoImplicit false

namespace RemoteDebugger

/-- The device, the patience of the link and the polls, and two addresses of the target. -/
structure Config where
  /-- The path of the serial device. -/
  device : Text := "/dev/ttyUSB1".toList
  /-- The time between two polls of a running processor, in milliseconds. -/
  pollInterval : Nat := 10
  /-- How many polls in a row must repeat the program counter before it counts as stalled. -/
  stallThreshold : Nat := 5
  /-- How many reads one reply is worth. -/
  linkRetryLimit : Nat := 64
  /-- How many polls decide whether the processor is stopped. -/
  stoppedCheckPolls : Nat := 10
  /-- Where one-shot instructions are executed. -/
  scratchAddress : UInt16 := 0x00F0
  /-- The zero-page word that holds the software stack pointer. -/
  softStackPointer : UInt16 := 0x0002
  deriving DecidableEq, Repr

def Config.pollMicroseconds (config : Config) : Nat := config.pollInterval * 1000

end RemoteDebugger
