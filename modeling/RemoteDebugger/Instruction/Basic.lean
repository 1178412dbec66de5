import RemoteDebugger.Instruction.Opcode

/-!
Decoded instructions. Decoding is total: every byte is an opcode, and bytes past the end of the
input count as zero. Disassembling walks the input by instruction sizes.
-/

set_option autoImplicit false

namespace RemoteDebugger

/-- The operand of a decoded instruction; branches carry the address they go to. -/
inductive OperandValue where
  | none
  | byte (value : UInt8)
  | word (value : UInt16)
  | target (address : UInt16)
  | bitBranch (zeroPage : UInt8) (address : UInt16)
  deriving DecidableEq, Repr

/-- One instruction at an address of the sixteen-bit view. -/
structure Instruction where
  address : UInt16
  opcode : UInt8
  mnemonic : Text
  mode : Mode
  operandBytes : List UInt8
  operand : OperandValue
  size : Nat
  deriving DecidableEq, Repr

def wordOf (low high : UInt8) : UInt16 := low.toUInt16 ||| (high.toUInt16 <<< 8)

def lowByte (word : UInt16) : UInt8 := word.toUInt8

def highByte (word : UInt16) : UInt8 := (word >>> 8).toUInt8

def signExtend (byte : UInt8) : UInt16 := byte.toInt8.toInt16.toUInt16

namespace Instruction

/-- Where a short branch goes: its displacement counts from the next instruction. -/
def shortTarget (address : UInt16) (size : Nat) (displacement : UInt8) : UInt16 :=
  address + UInt16.ofNat size + signExtend displacement

def longTarget (address : UInt16) (size : Nat) (displacement : UInt16) : UInt16 :=
  address + UInt16.ofNat size + displacement

/-- The operand that two bytes after the opcode encode; unused bytes are ignored. -/
def operandValue (mode : Mode) (first second : UInt8) (address : UInt16) : OperandValue :=
  match mode with
  | .implicit | .accumulator => .none
  | .immediate | .zeroPage | .zeroPageX | .zeroPageY | .indirectX | .indirectY | .indirectZ
  | .stackIndirectY => .byte first
  | .immediateWord | .absolute | .absoluteX | .absoluteY | .indirect | .indirectAbsoluteX =>
    .word (wordOf first second)
  | .relative => .target (shortTarget address mode.size first)
  | .relativeWord => .target (longTarget address mode.size (wordOf first second))
  | .zeroPageRelative => .bitBranch first (shortTarget address mode.size second)

/-- Decodes the instruction at the start of the bytes; missing bytes are zero. -/
def decode (bytes : List UInt8) (address : UInt16) : Instruction :=
  let opcode := bytes.getD 0 0
  let first := bytes.getD 1 0
  let second := bytes.getD 2 0
  let entry := Opcode.ofByte opcode
  { address
    opcode
    mnemonic := entry.mnemonic
    mode := entry.mode
    operandBytes := [first, second].take entry.mode.operandSize
    operand := operandValue entry.mode first second address
    size := entry.mode.size }

/-- The address after the instruction, which wraps at the top of the view. -/
def nextAddress (instruction : Instruction) : UInt16 :=
  instruction.address + UInt16.ofNat instruction.size

def isCall (instruction : Instruction) : Bool := instruction.mnemonic = "JSR".toList

def isReturn (instruction : Instruction) : Bool :=
  instruction.mnemonic = "RTS".toList || instruction.mnemonic = "RTI".toList ||
    instruction.mnemonic = "RTN".toList

/-- Walks bytes from an address, passing over those that belong to the last instruction. -/
def disassembleAfter : Nat → UInt16 → List UInt8 → List Instruction
  | _, _, [] => []
  | 0, address, byte :: rest =>
    let instruction := decode (byte :: rest) address
    instruction :: disassembleAfter (instruction.size - 1) instruction.nextAddress rest
  | skip + 1, address, _ :: rest => disassembleAfter skip address rest

/-- The instructions of a block of bytes, the last one completed by zeros if it is cut short. -/
def disassemble (bytes : List UInt8) (start : UInt16) : List Instruction :=
  disassembleAfter 0 start bytes

theorem disassembleAfter_eq_drop (skip : Nat) (address : UInt16) (bytes : List UInt8) :
    disassembleAfter skip address bytes = disassemble (bytes.drop skip) address := by
  induction bytes generalizing skip with
  | nil => cases skip <;> rfl
  | cons byte rest ih =>
    cases skip with
    | zero => rfl
    | succ skip => simpa [disassembleAfter] using ih skip

theorem disassemble_nil (start : UInt16) : disassemble [] start = [] := rfl

theorem disassemble_cons (byte : UInt8) (rest : List UInt8) (start : UInt16) :
    disassemble (byte :: rest) start =
      decode (byte :: rest) start ::
        disassemble ((byte :: rest).drop (decode (byte :: rest) start).size)
          (decode (byte :: rest) start).nextAddress := by
  show disassembleAfter 0 start (byte :: rest) = _
  rw [disassembleAfter, disassembleAfter_eq_drop]
  rfl

end Instruction

end RemoteDebugger
