import RemoteDebugger.Instruction.Basic
import RemoteDebugger.Text.Numeral

/-!
How instructions are printed: the operand in assembler syntax, the instruction text, and the
listing line with address and raw bytes.
-/

set_option autoImplicit false

namespace RemoteDebugger.Instruction

open Text

/-- The operand in assembler syntax. An operand that does not fit its mode prints as `?`. -/
def operandText (instruction : Instruction) : Text :=
  match instruction.mode, instruction.operand with
  | .implicit, _ => []
  | .accumulator, _ => "A"
  | .immediate, .byte v => "#$" ++ hexByte v
  | .immediateWord, .word v => "#$" ++ hexWord v
  | .zeroPage, .byte v => "$" ++ hexByte v
  | .zeroPageX, .byte v => "$" ++ hexByte v ++ ",X"
  | .zeroPageY, .byte v => "$" ++ hexByte v ++ ",Y"
  | .absolute, .word v => "$" ++ hexWord v
  | .absoluteX, .word v => "$" ++ hexWord v ++ ",X"
  | .absoluteY, .word v => "$" ++ hexWord v ++ ",Y"
  | .indirect, .word v => "($" ++ hexWord v ++ ")"
  | .indirectAbsoluteX, .word v => "($" ++ hexWord v ++ ",X)"
  | .indirectX, .byte v => "($" ++ hexByte v ++ ",X)"
  | .indirectY, .byte v => "($" ++ hexByte v ++ "),Y"
  | .indirectZ, .byte v => "($" ++ hexByte v ++ "),Z"
  | .stackIndirectY, .byte v => "($" ++ hexByte v ++ ",SP),Y"
  | .relative, .target address | .relativeWord, .target address => "$" ++ hexWord address
  | .zeroPageRelative, .bitBranch zeroPage address =>
    "$" ++ hexByte zeroPage ++ ",$" ++ hexWord address
  | _, _ => "?"

/-- The mnemonic, and the operand after a space if there is one. -/
def text (instruction : Instruction) : Text :=
  let operand := instruction.operandText
  if operand.isEmpty then instruction.mnemonic else instruction.mnemonic ++ " " ++ operand

/-- Address, raw bytes in a column of eight characters, and the instruction text. A flat address
has seven digits, of its low twenty-eight bits; any other has four. -/
def listingLine (instruction : Instruction) (shown : UInt32) (flat : Bool) : Text :=
  let address := if flat then hex 7 (shown &&& 0x0FFFFFFF).toNat else hex 4 (shown &&& 0xFFFF).toNat
  let raw := hexBytes (instruction.opcode :: instruction.operandBytes)
  "$" ++ address ++ "  " ++ padRight 8 raw ++ "  " ++ instruction.text

end RemoteDebugger.Instruction
