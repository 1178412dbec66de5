import RemoteDebugger.Instruction.Basic
import RemoteDebugger.Machine.Cells
import RemoteDebugger.Monitor.Registers

/-!
A small machine: registers, the sixteen-bit view of memory and flat memory beside it. It executes
calls, returns, jumps, the accumulator on the stack and the immediate load; every other
instruction only moves the program counter. Whoever watches the program counter and the stack
cannot tell it from a real processor that runs such a program.
-/

set_option autoImplicit false

namespace RemoteDebugger

structure Machine where
  registers : Registers
  view : Cells := .blank
  flat : Cells := .blank

namespace Machine

def byteAt (machine : Machine) (address : UInt16) : UInt8 :=
  machine.view.read 16 address.toNat

def setByte (machine : Machine) (address : UInt16) (value : UInt8) : Machine :=
  { machine with view := machine.view.write 16 address.toNat value }

/-- Monitor addresses that show the sixteen-bit view: the lowest ones and the window for it. -/
def isView (physical : UInt32) : Bool := physical < 0x10000 || physical >>> 16 == 0x777

def read (machine : Machine) (physical : UInt32) : UInt8 :=
  if isView physical then machine.byteAt physical.toUInt16
  else machine.flat.read 32 physical.toNat

def write (machine : Machine) (physical : UInt32) (value : UInt8) : Machine :=
  if isView physical then machine.setByte physical.toUInt16 value
  else { machine with flat := machine.flat.write 32 physical.toNat value }

def writeBytes : Machine → UInt32 → List UInt8 → Machine
  | machine, _, [] => machine
  | machine, physical, byte :: others =>
    writeBytes (machine.write physical byte) (physical + 1) others

def instructionAt (machine : Machine) (address : UInt16) : Instruction :=
  Instruction.decode
    [machine.byteAt address, machine.byteAt (address + 1), machine.byteAt (address + 2)] address

/-- Pushes a byte. The stack pointer stays in the second page. -/
def push (machine : Machine) (value : UInt8) : Machine :=
  let written := machine.setByte machine.registers.sp value
  let sp := 0x0100 ||| ((written.registers.sp - 1) &&& 0xFF)
  { written with registers := { written.registers with sp } }

/-- Moves the stack pointer up within the second page. -/
def raiseStack (machine : Machine) : Machine :=
  let sp := 0x0100 ||| ((machine.registers.sp + 1) &&& 0xFF)
  { machine with registers := { machine.registers with sp } }

def pull (machine : Machine) : UInt8 × Machine :=
  let raised := machine.raiseStack
  (raised.byteAt raised.registers.sp, raised)

def jump (machine : Machine) (address : UInt16) : Machine :=
  { machine with registers := { machine.registers with pc := address } }

/-- Calls a subroutine: the address of the call's last byte goes to the stack, high byte first. -/
def call (machine : Machine) (next target : UInt16) : Machine :=
  let last := next - 1
  ((machine.push (highByte last)).push (lowByte last)).jump target

def pullWord (machine : Machine) : UInt16 × Machine :=
  let (low, machine) := machine.pull
  let (high, machine) := machine.pull
  (wordOf low high, machine)

def perform (machine : Machine) (instruction : Instruction) : Machine :=
  let next := instruction.nextAddress
  match instruction.opcode, instruction.operand with
  | 0x20, .word target => machine.call next target
  | 0x63, .target target => machine.call next target
  | 0x4C, .word target => machine.jump target
  | 0x60, _ =>
    let (address, machine) := machine.pullWord
    machine.jump (address + 1)
  | 0x40, _ =>
    let (address, machine) := machine.pull.2.pullWord
    machine.jump address
  | 0x48, _ => (machine.push machine.registers.a).jump next
  | 0x68, _ =>
    let (value, machine) := machine.pull
    { machine with registers := { machine.registers with a := value, pc := next } }
  | 0xA9, .byte value =>
    { machine with registers := { machine.registers with a := value, pc := next } }
  | _, _ => machine.jump next

def execute (machine : Machine) : Machine :=
  let instruction := machine.instructionAt machine.registers.pc
  let noted := { machine with
    registers := { machine.registers with lastOp := instruction.opcode } }
  noted.perform instruction

/-- Executes at least one instruction and stops at an address, or after so many instructions. -/
def executeUntil (address : UInt16) : Nat → Machine → Machine
  | 0, machine => machine
  | left + 1, machine =>
    let next := machine.execute
    if next.registers.pc = address then next else executeUntil address left next

end Machine

end RemoteDebugger
