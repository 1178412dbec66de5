import RemoteDebugger.Session.Basic
import RemoteDebugger.Symbols.Basic

/-!
Stepping: single instructions, instructions with subroutines run through, and the rest of the
current subroutine. Each waiting loop has an allowance of rounds; a loop that ends within a smaller
allowance ends in the same way within a larger one.
-/

set_option autoImplicit false

namespace RemoteDebugger.Action

/-- Executes so many instructions, unless the operator asks to stop. -/
def stepTimes : Nat → Action StopReason
  | 0 => complete
  | left + 1 => do
    if ← isCancelled then abort
    else do
      onLink (·.singleStep)
      stepTimes left

def step (count : Nat) : Action StopReason :=
  command do
    enter .running
    stepTimes count

/-- Steps until the program counter is at an address. The answer is false if the operator asked to
stop before. -/
def stepUntil (address : UInt16) : Nat → Action Bool
  | 0 => throw .unfinished
  | left + 1 => do
    if ← isCancelled then pure false
    else do
      onLink (·.singleStep)
      let registers ← onLink (·.readRegisters)
      if registers.pc = address then pure true else stepUntil address left

/-- Executes one instruction; a subroutine call runs to the address after it. -/
def nextInstruction (rounds : Nat) : Action Bool := do
  let (_, instruction) ← currentInstruction
  if instruction.isCall then stepUntil instruction.nextAddress rounds
  else do
    onLink (·.singleStep)
    pure true

/-- Steps over by the monitor's own means until the program counter has left a source line; one
step is enough where no line is known. -/
def leaveLine (line : Option LineRange) : Nat → Action Bool
  | 0 => throw .unfinished
  | left + 1 => do
    onLink (·.stepOver)
    match line with
    | none => pure true
    | some range => do
      let registers ← onLink (·.readRegisters)
      if !range.contains registers.pc then pure true
      else if ← isCancelled then pure false
      else leaveLine (some range) left

/-- Steps over the source line that is known at the program counter. -/
def nextLine (rounds : Nat) (lineAt : UInt16 → Option LineRange) : Action Bool := do
  let registers ← onLink (·.readRegisters)
  leaveLine (lineAt registers.pc) rounds

/-- Steps over so many times with one way of stepping. -/
def repeatStep (one : Action Bool) : Nat → Action StopReason
  | 0 => complete
  | left + 1 => do
    if ← isCancelled then abort
    else do
      let completed ← one
      if completed then repeatStep one left else abort

/-- Steps over so many instructions or, by the monitor's own means, source lines. -/
def stepOverBy (rounds count : Nat) (hardware : Bool) (lineAt : UInt16 → Option LineRange) :
    Action StopReason :=
  command do
    enter .running
    repeatStep (if hardware then nextLine rounds lineAt else nextInstruction rounds) count

/-- Steps over with the source lines of the symbols, if there are any. -/
def stepOver (rounds count : Nat) (hardware : Bool) (symbols : Option Symbols) :
    Action StopReason :=
  stepOverBy rounds count hardware fun pc => symbols.bind fun known => known.lineRange pc

/-- Steps over instructions up to and including the return that finds a given stack pointer. -/
def runToReturn (rounds : Nat) (entry : UInt16) : Nat → Action StopReason
  | 0 => throw .unfinished
  | left + 1 => do
    if ← isCancelled then abort
    else do
      let (registers, instruction) ← currentInstruction
      let returning := instruction.isReturn && registers.sp == entry
      let completed ← nextInstruction rounds
      if !completed then abort
      else if returning then complete
      else runToReturn rounds entry left

def finish (rounds : Nat) : Action StopReason :=
  command do
    enter .running
    let registers ← onLink (·.readRegisters)
    runToReturn rounds registers.sp rounds

end RemoteDebugger.Action
