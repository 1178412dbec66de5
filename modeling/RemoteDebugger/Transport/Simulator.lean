import RemoteDebugger.Machine.Basic
import RemoteDebugger.Monitor.Command
import RemoteDebugger.Monitor.ValueLine
import RemoteDebugger.Transport.Basic

/-!
A simulated monitor: the machine behind the serial protocol. It echoes every command line before
it answers. While the machine is in run mode, each register poll lets it execute a slice of
instructions, so the passing of time is the sequence of polls.
-/

set_option autoImplicit false

namespace RemoteDebugger

/-- How a debugger can break the half-duplex protocol. -/
inductive Violation where
  /-- A command was sent while replies were waiting. -/
  | undrained (line : Text)
  /-- A line is no command. -/
  | unknown (line : Text)
  deriving DecidableEq, Repr

structure Simulator where
  machine : Machine :=
    { registers := { pc := 0x2000, sp := 0x01FF, flags := "..E..I..".toList } }
  running : Bool := false
  breakpoint : Option UInt16 := none
  instructionsPerPoll : Nat := 3
  /-- How many register polls there were. -/
  polls : Nat := 0
  /-- From this poll on, every poll raises the operator's wish to stop. -/
  cancelAt : Option Nat := none
  /-- Before this poll the machine does not move. -/
  frozenPolls : Nat := 0
  /-- The line at which the device fails. -/
  failOn : Option Text := none
  pending : List Text := []
  interrupt : Bool := false
  violation : Option Violation := none

namespace Simulator

def lost : Fault := ⟨"serial device went away"⟩

/-- Executes up to so many instructions, as long as the machine runs. The hardware breakpoint
stops it before the instruction at its address. -/
def runSlice : Nat → Simulator → Simulator
  | 0, simulator => simulator
  | left + 1, simulator =>
    if !simulator.running then simulator
    else if simulator.breakpoint = some simulator.machine.registers.pc then
      { simulator with running := false }
    else runSlice left { simulator with machine := simulator.machine.execute }

def elapse (simulator : Simulator) : Simulator :=
  if simulator.polls < simulator.frozenPolls then simulator
  else runSlice simulator.instructionsPerPoll simulator

def reply (simulator : Simulator) (lines : List Text) : Simulator :=
  { simulator with pending := simulator.pending ++ lines }

def window (machine : Machine) (physical : UInt32) : Window :=
  ⟨physical, Vector.ofFn fun index => machine.read (physical + UInt32.ofNat index.val)⟩

def raises (simulator : Simulator) : Bool :=
  match simulator.cancelAt with
  | some poll => poll ≤ simulator.polls
  | none => false

/-- A register poll: time passes, then the registers are printed below their column heads. -/
def poll (simulator : Simulator) : Simulator :=
  let moved := simulator.elapse
  let counted := { moved with polls := moved.polls + 1 }
  let noticed := { counted with interrupt := counted.interrupt || counted.raises }
  noticed.reply [Registers.header, noticed.machine.registers.line]

/-- The most instructions that the monitor's own step over executes. -/
def stepOverLimit : Nat := 10000

/-- The monitor's own step over: a subroutine runs until the address after the call. -/
def stepOver (machine : Machine) : Machine :=
  let instruction := machine.instructionAt machine.registers.pc
  if instruction.isCall then machine.executeUntil instruction.nextAddress stepOverLimit
  else machine.execute

def handle (simulator : Simulator) : Command → Simulator
  | .readRegisters => simulator.poll
  | .setRunning running => { simulator with running }
  | .singleStep => { simulator with machine := simulator.machine.execute }
  | .stepOver => { simulator with machine := stepOver simulator.machine }
  | .readWindow physical => simulator.reply [(window simulator.machine physical).line]
  | .readBulk physical =>
    simulator.reply ((List.range 16).map fun row =>
      (window simulator.machine (physical + UInt32.ofNat (16 * row))).line)
  | .write physical bytes =>
    { simulator with machine := simulator.machine.writeBytes physical bytes }
  | .setBreakpoint address => { simulator with breakpoint := some address }
  | .setPc address => { simulator with machine := simulator.machine.jump address }

def note (simulator : Simulator) (violation : Violation) : Simulator :=
  { simulator with violation := simulator.violation <|> some violation }

def obey (simulator : Simulator) (line : Text) : Simulator :=
  let echoed := simulator.reply [line]
  match Command.ofLine? line with
  | some command => echoed.handle command
  | none => echoed.note (.unknown line)

/-- Takes a line. A failing device does nothing with it. -/
def send (simulator : Simulator) (line : Text) : Except Fault Unit × Simulator :=
  let checked := if simulator.pending.isEmpty then simulator else simulator.note (.undrained line)
  if checked.failOn = some line then (.error lost, checked) else (.ok (), checked.obey line)

def receive (simulator : Simulator) : Except Fault (Option Text) × Simulator :=
  match simulator.pending with
  | [] => (.ok none, simulator)
  | line :: others => (.ok (some line), { simulator with pending := others })

instance : Transport Simulator where
  send := send
  receive := receive
  interrupted simulator := (simulator.interrupt, { simulator with interrupt := false })

/-- More rounds than any waiting loop goes over a simulator whose operator asks to stop at some
poll: each round polls. -/
def rounds (simulator : Simulator) : Nat := simulator.cancelAt.getD 0 - simulator.polls + 2

end Simulator

end RemoteDebugger
