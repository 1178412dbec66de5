import RemoteDebugger.Session.Code
import RemoteDebugger.Session.Stepping

/-!
Operations: everything that the user of a session can ask for, over its link or of the session
itself. A use of a session is a sequence of operations; one that fails does not end the sequence.
-/

set_option autoImplicit false

namespace RemoteDebugger

/-- What can be asked of the link, with the type of the answer. -/
inductive LinkOperation : Type → Type where
  | readRegisters : LinkOperation Registers
  | readWindow (address : Address) : LinkOperation Window
  | readBulk (address : Address) : LinkOperation (List Window)
  | readRange (address : Address) (length : Nat) : LinkOperation (List UInt8)
  | peek (address : Address) : LinkOperation UInt8
  | peekWord (address : Address) : LinkOperation UInt16
  | peekDword (address : Address) : LinkOperation UInt32
  | search (address : Address) (length : Nat) (pattern : List UInt8) : LinkOperation (List Address)
  | writeMemory (address : Address) (bytes : List UInt8) : LinkOperation Unit
  | writeRange (address : Address) (bytes : List UInt8) : LinkOperation Unit
  | copy (source destination : Address) (count : Nat) : LinkOperation Unit
  | setPc (address : UInt16) : LinkOperation Unit
  | setBreakpoint (address : UInt16) : LinkOperation Unit
  | setRunning (running : Bool) : LinkOperation Unit
  | singleStep : LinkOperation Unit
  | stepOver : LinkOperation Unit

def LinkOperation.exchange {α : Type} : LinkOperation α → Link → Exchange α
  | readRegisters, link => link.readRegisters
  | readWindow address, link => link.readWindow address
  | readBulk address, link => link.readBulk address
  | readRange address length, link => link.readRange address length
  | peek address, link => link.peek address
  | peekWord address, link => link.peekWord address
  | peekDword address, link => link.peekDword address
  | search address length pattern, link => link.search address length pattern
  | writeMemory address bytes, link => link.writeMemory address bytes
  | writeRange address bytes, link => link.writeRange address bytes
  | copy source destination count, link => link.copy source destination count
  | setPc address, link => link.setPc address
  | setBreakpoint address, link => link.setBreakpoint address
  | setRunning running, link => link.setRunning running
  | singleStep, link => link.singleStep
  | stepOver, link => link.stepOver

/-- The commands that let the processor run and wait for it. -/
inductive ExecutionCommand where
  | resume (rounds : Nat) (target : Option UInt32) (software : Bool)
  | step (count : Nat)
  | stepOver (rounds count : Nat) (hardware : Bool) (lineAt : UInt16 → Option LineRange)
  | finish (rounds : Nat)

def ExecutionCommand.action : ExecutionCommand → Action StopReason
  | resume rounds target software => Action.continueExecution rounds target software
  | step count => Action.step count
  | stepOver rounds count hardware lineAt => Action.stepOverBy rounds count hardware lineAt
  | finish rounds => Action.finish rounds

/-- What can be asked of a session, with the type of the answer. -/
inductive Operation : Type → Type 1 where
  | link {α : Type} (operation : LinkOperation α) : Operation α
  | execution (command : ExecutionCommand) : Operation StopReason
  | isStopped : Operation Bool
  | setSoftwareBreakpoint (address : UInt32) : Operation SoftwareBreakpoint
  | clearSoftwareBreakpoint : Operation (Option SoftwareBreakpoint)
  | setHardwareBreakpoint (address : UInt16) : Operation Unit
  | setPc (address : UInt16) : Operation Unit
  | assemble (address : Address) (line : Text) : Operation Encoding
  | executeOneShot (line : Text) : Operation Registers
  | disassemble (address : Option Address) (count : Nat) : Operation (List Text)
  | backtrace : Operation (List Frame)
  | moveFrame (direction : FrameDirection) : Operation FrameMove
  | effectiveAddress : Operation UInt16
  | locals (functionAt : UInt16 → Option Function) : Operation (List LocalValue)
  | raiseFlag : Operation Unit
  | lowerFlag : Operation Unit

def Operation.action {α : Type} : Operation α → Action α
  | link operation => Action.onLink operation.exchange
  | execution command => command.action
  | isStopped => Action.isStopped
  | setSoftwareBreakpoint address => Action.setSoftwareBreakpoint address
  | clearSoftwareBreakpoint => Action.clearSoftwareBreakpoint
  | setHardwareBreakpoint address => Action.setHardwareBreakpoint address
  | setPc address => Action.setPc address
  | assemble address line => Action.assembleAt address line
  | executeOneShot line => Action.executeOneShot line
  | disassemble address count => Action.disassembleAt address count
  | backtrace => Action.backtrace
  | moveFrame direction => Action.moveFrame direction
  | effectiveAddress => Action.effectiveAddress
  | locals functionAt => Action.localsBy functionAt
  | raiseFlag => Action.raiseFlag
  | lowerFlag => Action.lowerFlag

/-- Operations one after another. -/
abbrev Usage := List ((α : Type) × Operation α)

/-- What has become of session and other side after all operations. -/
def Usage.through {τ : Type} [Transport τ] : Usage → Session → τ → Session × τ
  | [], session, remote => (session, remote)
  | ⟨_, operation⟩ :: others, session, remote =>
    let ((_, next), after) := operation.action.through session remote
    through others next after

end RemoteDebugger
