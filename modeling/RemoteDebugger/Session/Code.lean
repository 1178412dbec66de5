import RemoteDebugger.Instruction.Listing
import RemoteDebugger.Session.Running
import RemoteDebugger.Session.Stack

/-!
Code on the target: assembling into memory, executing one instruction out of the scratch area, and
listings.
-/

set_option autoImplicit false

namespace RemoteDebugger.Action

/-- Assembles a line; an encode error is a failure of the action. -/
def assembled (line : Text) (address : UInt16) : Action Encoding :=
  match Encoding.ofLine line address with
  | .ok encoding => pure encoding
  | .error cause => throw (.encode cause)

def assembleAt (address : Address) (line : Text) : Action Encoding := do
  let encoding ← assembled line address.cpuAddress
  onLink (·.writeMemory address encoding.bytes)
  pure encoding

/-- Executes one instruction out of the scratch area and tells the registers after it. The program
counter and the scratch bytes are put back. -/
def executeOneShot (line : Text) : Action Registers := do
  let session ← get
  let scratch := session.config.scratchAddress
  let encoding ← assembled line scratch
  if !(← isStopped) then onLink (·.setRunning false)
  let before ← onLink (·.readRegisters)
  let window ← onLink (·.readWindow (.cpu scratch))
  let saved := window.bytes.toList.take encoding.bytes.length
  onLink (·.writeMemory (.cpu scratch) encoding.bytes)
  onLink (·.setPc scratch)
  onLink (·.singleStep)
  let after ← onLink (·.readRegisters)
  onLink (·.setPc before.pc)
  onLink (·.writeMemory (.cpu scratch) saved)
  pure after

/-- Listing lines of so many instructions, from a distance into bytes that start at an address. -/
def listingFrom (start : Address) (bytes : List UInt8) : Nat → Nat → List Text
  | 0, _ => []
  | left + 1, distance =>
    let here := start.offset (UInt32.ofNat distance)
    let instruction := Instruction.decode (bytes.drop distance) here.cpuAddress
    let shown := if here.isFlat then here.physical else here.cpuAddress.toUInt32
    instruction.listingLine shown here.isFlat ::
      listingFrom start bytes left (distance + instruction.size)

/-- Lists so many instructions from an address, or from the selected frame. No instruction has more
than three bytes. -/
def disassembleAt (address : Option Address) (count : Nat) : Action (List Text) := do
  let start ← match address with
    | some address => pure address
    | none => do
      let selected ← effectiveAddress
      pure (.cpu selected)
  let bytes ← onLink (·.readRange start (count * 3))
  pure (listingFrom start bytes count 0)

end RemoteDebugger.Action
