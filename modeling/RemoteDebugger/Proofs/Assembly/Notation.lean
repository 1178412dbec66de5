import RemoteDebugger.Instruction.Listing
import RemoteDebugger.Proofs.Assembly.Grammar

/-!
Operands read back. The printed operand of a decoded instruction is one of the written forms of what
the assembler takes it for, without blanks and in capital letters, so it is read as just that.
-/

set_option autoImplicit false

namespace RemoteDebugger.Operand

open Text (hex upper squeeze isBlank)

/-- A number as operands are printed: a dollar sign and at least so many digits. -/
def numeral (width : Nat) (value : UInt16) : Text := '$' :: hex width value.toNat

theorem number_numeral (width : Nat) (value : UInt16) : Number (numeral width value) value :=
  .hexadecimal (Text.numeral_hex width value.toNat)

/-- The text has no blanks and no small letters. -/
def Kept (text : Text) : Prop := ∀ c ∈ text, isBlank c = false ∧ c.toUpper = c

theorem kept_nil : Kept [] := fun _ member => absurd member List.not_mem_nil

theorem kept_cons {c : Char} {text : Text} :
    Kept (c :: text) ↔ (isBlank c = false ∧ c.toUpper = c) ∧ Kept text :=
  List.forall_mem_cons

theorem kept_append {front back : Text} : Kept (front ++ back) ↔ Kept front ∧ Kept back :=
  List.forall_mem_append

theorem kept_numeral (width : Nat) (value : UInt16) : Kept (numeral width value) := by
  have digits : ∀ d < 16, isBlank (Nat.digitChar d).toUpper = false ∧
      (Nat.digitChar d).toUpper.toUpper = (Nat.digitChar d).toUpper := by decide
  refine kept_cons.mpr ⟨by decide, fun c member => ?_⟩
  obtain ⟨d, small, rfl⟩ := Text.mem_hex member
  exact digits d small

theorem read_of_kept {operand : Operand} {text : Text} (written : Written operand text)
    (kept : Kept text) : read text = .ok operand := by
  have solid : Text.Solid text := fun c member => (kept c member).1
  have same : upper (squeeze text) = text := by
    rw [Text.squeeze_of_solid solid, upper, List.map_congr_left fun c member => (kept c member).2,
      List.map_id']
  exact read_of_written written same solid

end RemoteDebugger.Operand

namespace RemoteDebugger

open Operand (numeral)
open Text (isBlank)

/-- What a decoded operand of a mode means to the assembler. -/
def Mode.written : Mode → OperandValue → Operand
  | .immediate, .byte v => .immediate v.toUInt16
  | .immediateWord, .word v => .immediate v
  | .zeroPage, .byte v => .direct v.toUInt16
  | .zeroPageX, .byte v => .indexedX v.toUInt16
  | .zeroPageY, .byte v => .indexedY v.toUInt16
  | .absolute, .word v => .direct v
  | .absoluteX, .word v => .indexedX v
  | .absoluteY, .word v => .indexedY v
  | .indirect, .word v => .indirect v
  | .indirectAbsoluteX, .word v => .indirectX v
  | .indirectX, .byte v => .indirectX v.toUInt16
  | .indirectY, .byte v => .indirectY v.toUInt16
  | .indirectZ, .byte v => .indirectZ v.toUInt16
  | .stackIndirectY, .byte v => .stackIndirectY v.toUInt16
  | .relative, .target address | .relativeWord, .target address => .direct address
  | .zeroPageRelative, .bitBranch page address => .zeroPageRelative page.toUInt16 address
  | _, _ => .none

namespace Instruction

/-- What the operand of an instruction means to the assembler. -/
def written (instruction : Instruction) : Operand := instruction.mode.written instruction.operand

private theorem numeral_byte (byte : UInt8) :
    '$' :: Text.hexByte byte = numeral 2 byte.toUInt16 := by
  rw [numeral, Text.hexByte, UInt8.toNat_toUInt16]

private theorem numeral_word (word : UInt16) : '$' :: Text.hexWord word = numeral 4 word := rfl

theorem written_operandText (bytes : List UInt8) (address : UInt16) :
    Operand.Written (decode bytes address).written (decode bytes address).operandText := by
  simp only [operandText, written, decode]
  generalize (Opcode.ofByte (bytes.getD 0 0)).mode = mode
  cases mode
  all_goals
    simp only [operandValue, Mode.written, String.reduceToList, List.cons_append, List.nil_append,
      numeral_byte, numeral_word]
  case implicit => exact .empty
  case accumulator => exact .accumulator
  case immediate | immediateWord => exact .immediate (Operand.number_numeral _ _)
  case zeroPage | absolute | relative | relativeWord => exact .direct (Operand.number_numeral _ _)
  case zeroPageX | absoluteX => exact .indexedX (Operand.number_numeral _ _)
  case zeroPageY | absoluteY => exact .indexedY (Operand.number_numeral _ _)
  case indirect => exact .indirect (Operand.number_numeral _ _)
  case indirectAbsoluteX | indirectX => exact .indirectX (Operand.number_numeral _ _)
  case indirectY => exact .indirectY (Operand.number_numeral _ _)
  case indirectZ => exact .indirectZ (Operand.number_numeral _ _)
  case stackIndirectY => exact .stackIndirectY (Operand.number_numeral _ _)
  case zeroPageRelative =>
    rw [List.append_assoc]
    exact .zeroPageRelative (Operand.number_numeral 2 _) (Operand.number_numeral 4 _)

theorem kept_operandText (bytes : List UInt8) (address : UInt16) :
    Operand.Kept (decode bytes address).operandText := by
  simp only [operandText, decode]
  generalize (Opcode.ofByte (bytes.getD 0 0)).mode = mode
  cases mode
  all_goals
    simp only [operandValue, String.reduceToList, List.cons_append, List.nil_append, numeral_byte,
      numeral_word, List.append_assoc]
    simp [Operand.kept_append, Operand.kept_cons, Operand.kept_nil, Operand.kept_numeral, isBlank]

theorem read_operandText (bytes : List UInt8) (address : UInt16) :
    Operand.read (decode bytes address).operandText = .ok (decode bytes address).written :=
  Operand.read_of_kept (written_operandText bytes address) (kept_operandText bytes address)

theorem solid_operandText (bytes : List UInt8) (address : UInt16) :
    Text.Solid (decode bytes address).operandText :=
  fun c member => (kept_operandText bytes address c member).1

end Instruction

end RemoteDebugger
