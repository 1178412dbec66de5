import RemoteDebugger.Assembly.Encoding
import RemoteDebugger.Config.Basic
import RemoteDebugger.Link.Range
import RemoteDebugger.Session.Breakpoint
import RemoteDebugger.Session.Frame

/-!
A debugging session: one link, one software breakpoint slot, one frame cursor and one cancellation
flag. Every operation is an action: it reads and changes the session and leads a dialogue, and a
failed one keeps the session as it was at the failure.
-/

set_option autoImplicit false

namespace RemoteDebugger

inductive RunState where
  /-- Between commands. -/
  | stopped
  /-- Within a command that lets the processor run. -/
  | running
  /-- Waiting for the processor to stall in the software breakpoint. -/
  | awaitingStall
  deriving DecidableEq, Repr

/-- Why a command that lets the processor run has ended. -/
inductive StopReason where
  /-- Stepping came to its end. -/
  | completed (pc : UInt16)
  /-- The processor stalled in the software breakpoint, which is removed. -/
  | softwareBreakpoint (pc : UInt16)
  /-- The processor stalled elsewhere. -/
  | halted (pc : UInt16)
  /-- The operator asked to stop. -/
  | cancelled
  deriving DecidableEq, Repr

namespace StopReason

def text : StopReason → Text
  | completed pc => "stopped at $" ++ Text.hexWord pc
  | softwareBreakpoint pc => "software breakpoint hit at $" ++ Text.hexWord pc
  | halted pc => "halted at $" ++ Text.hexWord pc
  | cancelled => "cancelled"

/-- The program counter at the stop, where it is known. -/
def pc? : StopReason → Option UInt16
  | completed pc | softwareBreakpoint pc | halted pc => some pc
  | cancelled => none

end StopReason

structure Session where
  config : Config := {}
  breakpoint : Option SoftwareBreakpoint := none
  state : RunState := .stopped
  frame : FrameCursor := {}
  cancelled : Bool := false
  deriving DecidableEq

def Session.link (session : Session) : Link := ⟨session.config.linkRetryLimit⟩

inductive Failure where
  | link (cause : LinkError)
  | encode (cause : EncodeError)
  /-- A waiting loop used up its allowance of rounds. It says nothing about the other side. -/
  | unfinished
  deriving DecidableEq, Repr

abbrev Action := ExceptT Failure (StateT Session Dialogue)

namespace Action

variable {α : Type}

def ofDialogue (dialogue : Dialogue α) : Action α :=
  ExceptT.mk fun session => dialogue >>= fun value => pure (.ok value, session)

def ofExchange (exchange : Exchange α) : Action α :=
  ExceptT.mk fun session => exchange.run >>= fun
    | .ok value => pure (.ok value, session)
    | .error cause => pure (.error (.link cause), session)

def onLink (exchange : Link → Exchange α) : Action α := do
  let session ← get
  ofExchange (exchange session.link)

def through {τ : Type} [Transport τ] (action : Action α) (session : Session) (remote : τ) :
    (Except Failure α × Session) × τ :=
  Dialogue.through (action.run.run session) remote

def enter (state : RunState) : Action Unit :=
  modify fun session => { session with state }

def pause : Action Unit := do
  let session ← get
  ofDialogue (.pause session.config.pollInterval (.done ()))

def lowerFlag : Action Unit := do
  let _ ← ofDialogue (.interrupted .done)
  modify fun session => { session with cancelled := false }

def raiseFlag : Action Unit :=
  modify fun session => { session with cancelled := true }

/-- Whether the cancellation flag is raised; the operator may have raised it since. -/
def isCancelled : Action Bool := do
  let asked ← ofDialogue (.interrupted .done)
  modify fun session => { session with cancelled := session.cancelled || asked }
  let session ← get
  pure session.cancelled

/-- Frames a command that lets the processor run: it starts with the flag lowered and the first
frame selected, and if it fails the session is stopped. -/
def command (body : Action α) : Action α := do
  lowerFlag
  modify fun session => { session with frame := {} }
  tryCatch body fun failure => do
    enter .stopped
    throw failure

/-- Stops the processor because the operator asked for it. -/
def abort : Action StopReason := do
  onLink (·.setRunning false)
  enter .stopped
  pure .cancelled

/-- Ends a stepping command with the program counter that it has reached. -/
def complete : Action StopReason := do
  let registers ← onLink (·.readRegisters)
  enter .stopped
  pure (.completed registers.pc)

/-- The registers and the instruction at the program counter. -/
def currentInstruction : Action (Registers × Instruction) := do
  let registers ← onLink (·.readRegisters)
  let window ← onLink (·.readWindow (.cpu registers.pc))
  pure (registers, Instruction.decode window.bytes.toList registers.pc)

def moveFrame (direction : FrameDirection) : Action FrameMove := do
  let session ← get
  let (moved, frame) := session.frame.move direction
  set { session with frame }
  pure moved

end Action

end RemoteDebugger
