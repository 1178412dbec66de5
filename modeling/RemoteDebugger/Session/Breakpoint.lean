import RemoteDebugger.Assembly.Encoding
import RemoteDebugger.Memory.Address
import RemoteDebugger.Memory.Window

/-!
Software breakpoints. The three bytes at the breakpoint are replaced by a jump to themselves, so
that a processor that reaches them stalls there; the bytes that were there are kept.
-/

set_option autoImplicit false

namespace RemoteDebugger

structure SoftwareBreakpoint where
  address : Address
  saved : Vector UInt8 3
  deriving DecidableEq

namespace SoftwareBreakpoint

def jumpOpcode : UInt8 := 0x4C

def wedge (address : UInt16) : List UInt8 := jumpOpcode :: Encoding.wordBytes address

/-- Where a breakpoint is patched in: hypervisor memory is reached by its flat address only. -/
def patchAddress (address : UInt32) (inHypervisor : Bool) : Address :=
  if inHypervisor then .flat (Address.hypervisorBase ||| address) else .ofNumber address

def savedOf (window : Window) : Vector UInt8 3 :=
  Vector.ofFn fun index => window.bytes.get (index.castLE (by decide))

def cpuAddress (breakpoint : SoftwareBreakpoint) : UInt16 := breakpoint.address.cpuAddress

/-- Whether a program counter is within the patch, which may wrap at the top of the view. -/
def contains (breakpoint : SoftwareBreakpoint) (pc : UInt16) : Bool :=
  pc - breakpoint.cpuAddress < 3

end SoftwareBreakpoint

end RemoteDebugger
