import RemoteDebugger.Session.Basic

/-!
Letting the processor run. The target never says that it has stopped, so the debugger polls the
program counter and takes a run of equal samples for a stall. A self-jump stalls in just this way.
-/

set_option autoImplicit false

namespace RemoteDebugger

/-- The last sample and how many samples before it were equal to it without a break. -/
structure StallCount where
  last : Option UInt16 := none
  same : Nat := 0
  deriving DecidableEq, Repr

def StallCount.observe (count : StallCount) (pc : UInt16) : StallCount :=
  if count.last = some pc then { count with same := count.same + 1 } else ⟨some pc, 0⟩

namespace Action

/-- Samples the program counter up to so many times, until it repeats often enough. -/
def seemsStopped : Nat → StallCount → Action Bool
  | 0, _ => pure false
  | left + 1, count => do
    let session ← get
    let registers ← onLink (·.readRegisters)
    let seen := count.observe registers.pc
    if max session.config.stallThreshold 1 ≤ seen.same then pure true
    else do
      pause
      seemsStopped left seen

/-- Whether the processor seems to be stopped. A program counter that has not been seen twice
never counts as stopped. -/
def isStopped : Action Bool := do
  let session ← get
  seemsStopped session.config.stoppedCheckPolls {}

/-- Arms the software breakpoint. A running processor is stopped meanwhile. A breakpoint that is
armed already is forgotten, its patch stays. -/
def setSoftwareBreakpoint (address : UInt32) : Action SoftwareBreakpoint := do
  let wasRunning := !(← isStopped)
  if wasRunning then onLink (·.setRunning false)
  let registers ← onLink (·.readRegisters)
  let place := SoftwareBreakpoint.patchAddress address registers.inHypervisor
  let window ← onLink (·.readWindow place)
  onLink (·.writeMemory place (SoftwareBreakpoint.wedge place.cpuAddress))
  let armed : SoftwareBreakpoint := ⟨place, SoftwareBreakpoint.savedOf window⟩
  modify fun session => { session with breakpoint := some armed }
  if wasRunning then onLink (·.setRunning true)
  pure armed

/-- Removes the software breakpoint, if one is armed. The slot is emptied first. -/
def clearSoftwareBreakpoint : Action (Option SoftwareBreakpoint) := do
  let session ← get
  match session.breakpoint with
  | none => pure none
  | some armed => do
    set { session with breakpoint := none }
    onLink (·.setRunning false)
    onLink (·.writeMemory armed.address armed.saved.toList)
    pure (some armed)

def setHardwareBreakpoint (address : UInt16) : Action Unit := onLink (·.setBreakpoint address)

def setPc (address : UInt16) : Action Unit := onLink (·.setPc address)

/-- Prepares the breakpoint of a continue. The processor is moved off a software breakpoint at its
own program counter, where it would stall at once. -/
def prepareTarget (target : Option UInt32) (software : Bool) : Action Unit :=
  match target with
  | none => pure ()
  | some address =>
    if software then do
      let registers ← onLink (·.readRegisters)
      if registers.pc = address.toUInt16 then onLink (·.singleStep)
      let _ ← setSoftwareBreakpoint address
    else setHardwareBreakpoint address.toUInt16

/-- Ends a continue at a stall. A breakpoint that was hit is removed. -/
def stalled (pc : UInt16) : Action StopReason := do
  let session ← get
  enter .stopped
  match session.breakpoint.filter fun armed => armed.contains pc with
  | some _ => do
    let _ ← clearSoftwareBreakpoint
    pure (.softwareBreakpoint pc)
  | none => pure (.halted pc)

/-- Polls a running processor until it stalls or the operator asks to stop. -/
def awaitStall : Nat → StallCount → Action StopReason
  | 0, _ => throw .unfinished
  | left + 1, count => do
    if ← isCancelled then abort
    else do
      pause
      let session ← get
      let registers ← onLink (·.readRegisters)
      let seen := count.observe registers.pc
      if seen.same < session.config.stallThreshold then awaitStall left seen
      else stalled registers.pc

/-- Lets the processor run from a prepared breakpoint to a stall. -/
def runToStall (rounds : Nat) (target : Option UInt32) (software : Bool) : Action StopReason := do
  prepareTarget target software
  onLink (·.setRunning true)
  let session ← get
  enter (if session.breakpoint.isSome then .awaitingStall else .running)
  awaitStall rounds {}

/-- Continues, optionally up to a software or hardware breakpoint. -/
def continueExecution (rounds : Nat) (target : Option UInt32) (software : Bool) :
    Action StopReason :=
  command (runToStall rounds target software)

end Action

end RemoteDebugger
