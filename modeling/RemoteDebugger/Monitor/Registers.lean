import RemoteDebugger.Text.Numeral

/-!
The register file as the monitor shows it.
-/

set_option autoImplicit false

namespace RemoteDebugger

/-- One snapshot of the registers. Flags are the letters that the monitor prints. -/
structure Registers where
  pc : UInt16 := 0
  a : UInt8 := 0
  x : UInt8 := 0
  y : UInt8 := 0
  z : UInt8 := 0
  b : UInt8 := 0
  sp : UInt16 := 0
  maph : UInt16 := 0
  mapl : UInt16 := 0
  lastOp : UInt8 := 0
  reserved : UInt8 × UInt8 := (0, 0)
  flags : Text := []
  deriving DecidableEq, Repr

def Registers.hypervisorMap : UInt16 := 0x3F00

def Registers.inHypervisor (registers : Registers) : Bool :=
  registers.maph == hypervisorMap

end RemoteDebugger
