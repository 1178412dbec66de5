import RemoteDebugger.Assembly.Operand
import RemoteDebugger.Instruction.Basic

/-!
Assembling one line. The narrowest form of the instruction set that can hold the operand is
taken: a byte before a word, a short branch before a long one.
-/

set_option autoImplicit false

namespace RemoteDebugger

/-- The bytes of an assembled instruction and the table entry that they use. -/
structure Encoding where
  bytes : List UInt8
  opcode : UInt8
  mode : Mode
  deriving DecidableEq, Repr

inductive EncodeError where
  | unknownMnemonic (mnemonic : Text)
  | noMatchingForm (mnemonic : Text) (operand : Operand)
  | invalidOperand (cause : OperandError)
  deriving DecidableEq, Repr

def EncodeError.message : EncodeError → String
  | .unknownMnemonic mnemonic => s!"unknown mnemonic '{String.ofList mnemonic}'"
  | .noMatchingForm mnemonic operand =>
    s!"no addressing mode of {String.ofList mnemonic} matches operand {operand.description}"
  | .invalidOperand cause => s!"invalid operand: {cause.message}"

namespace Encoding

/-- The low and high byte of a word, in the order in which they are stored. -/
def wordBytes (word : UInt16) : List UInt8 := [lowByte word, highByte word]

/-- The distance from the next instruction to a target, as a signed number modulo 2^16. -/
def displacement (target address : UInt16) (size : Nat) : UInt16 :=
  target - (address + UInt16.ofNat size)

/-- The distance read as a signed number, so that branches across the top of the view are short. -/
def signedDisplacement (target address : UInt16) (size : Nat) : Int :=
  (displacement target address size).toInt16.toInt

def shortDisplacement? (target address : UInt16) (size : Nat) : Option UInt8 :=
  let distance := signedDisplacement target address size
  if -128 ≤ distance ∧ distance ≤ 127 then some (lowByte (displacement target address size))
  else none

/-- The opcode of a mnemonic in a mode, followed by operand bytes. -/
def withOperand? (mnemonic : Text) (mode : Mode) (operand : List UInt8) : Option Encoding :=
  (Opcode.byte? mnemonic mode).map fun opcode => ⟨opcode :: operand, opcode, mode⟩

/-- A form with a one-byte operand, if the value fits. -/
def withByte? (mnemonic : Text) (mode : Mode) (value : UInt16) : Option Encoding :=
  if value ≤ 0xFF then withOperand? mnemonic mode [lowByte value] else none

def withWord? (mnemonic : Text) (mode : Mode) (value : UInt16) : Option Encoding :=
  withOperand? mnemonic mode (wordBytes value)

def shortBranch? (mnemonic : Text) (target address : UInt16) : Option Encoding :=
  (shortDisplacement? target address Mode.relative.size).bind fun distance =>
    withOperand? mnemonic .relative [distance]

def longBranch? (mnemonic : Text) (target address : UInt16) : Option Encoding :=
  withOperand? mnemonic .relativeWord
    (wordBytes (displacement target address Mode.relativeWord.size))

/-- A branch on a bit of a zero-page byte, if that address is one byte and the target in reach. -/
def bitBranch? (mnemonic : Text) (zeroPage target address : UInt16) : Option Encoding :=
  if zeroPage ≤ 0xFF then
    (shortDisplacement? target address Mode.zeroPageRelative.size).bind fun distance =>
      withOperand? mnemonic .zeroPageRelative [lowByte zeroPage, distance]
  else none

/-- The first form, from the narrowest on, that the mnemonic has for an operand. -/
def ofOperand? (mnemonic : Text) (operand : Operand) (address : UInt16) : Option Encoding :=
  match operand with
  | .none => withOperand? mnemonic .implicit [] <|> withOperand? mnemonic .accumulator []
  | .indirectX value =>
    withByte? mnemonic .indirectX value <|> withWord? mnemonic .indirectAbsoluteX value
  | .zeroPageRelative zeroPage target => bitBranch? mnemonic zeroPage target address
  | .indirectY value => withByte? mnemonic .indirectY value
  | .indirectZ value => withByte? mnemonic .indirectZ value
  | .indexedX value => withByte? mnemonic .zeroPageX value <|> withWord? mnemonic .absoluteX value
  | .indexedY value => withByte? mnemonic .zeroPageY value <|> withWord? mnemonic .absoluteY value
  | .indirect value => withWord? mnemonic .indirect value
  | .stackIndirectY value => withByte? mnemonic .stackIndirectY value
  | .direct value =>
    withByte? mnemonic .zeroPage value <|> withWord? mnemonic .absolute value <|>
      shortBranch? mnemonic value address <|> longBranch? mnemonic value address
  | .immediate value =>
    withByte? mnemonic .immediate value <|> withWord? mnemonic .immediateWord value

/-- Encodes an operand of a mnemonic, which is taken as it is written. -/
def ofOperand (mnemonic : Text) (operand : Operand) (address : UInt16) :
    Except EncodeError Encoding :=
  match ofOperand? mnemonic operand address with
  | some encoding => .ok encoding
  | none => .error (.noMatchingForm mnemonic operand)

/-- Encodes a mnemonic and an operand text. The mnemonic is judged before the operand is read. -/
def ofParts (mnemonic operand : Text) (address : UInt16) : Except EncodeError Encoding :=
  if Opcode.isMnemonic mnemonic then
    match Operand.read operand with
    | .ok shape => ofOperand (Opcode.canonical mnemonic) shape address
    | .error cause => .error (.invalidOperand cause)
  else .error (.unknownMnemonic (Opcode.canonical mnemonic))

/-- The mnemonic and the operand text of a line: the first word, and all after one blank. -/
def splitLine (line : Text) : Text × Text :=
  let line := Text.trim line
  (Text.cut? Text.isBlank line).getD (line, [])

def ofLine (line : Text) (address : UInt16) : Except EncodeError Encoding :=
  let (mnemonic, operand) := splitLine line
  if mnemonic.isEmpty then .error (.invalidOperand .emptyLine)
  else ofParts mnemonic operand address

end Encoding

end RemoteDebugger
