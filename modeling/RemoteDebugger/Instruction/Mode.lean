/-!
Addressing modes of the 4510. It keeps every mode of the 6502 family and adds the Z index, the
stack-pointer pointer, sixteen-bit immediates, long branches and the bit branch.
-/

set_option autoImplicit false

namespace RemoteDebugger

inductive Mode where
  | implicit
  | accumulator
  | immediate
  | immediateWord
  | zeroPage
  | zeroPageX
  | zeroPageY
  | absolute
  | absoluteX
  | absoluteY
  | indirect
  | indirectAbsoluteX
  | indirectX
  | indirectY
  | indirectZ
  | stackIndirectY
  | relative
  | relativeWord
  | zeroPageRelative
  deriving DecidableEq, Repr

namespace Mode

def operandSize : Mode → Nat
  | implicit | accumulator => 0
  | immediate | zeroPage | zeroPageX | zeroPageY | relative | indirectX | indirectY
  | indirectZ | stackIndirectY => 1
  | immediateWord | absolute | absoluteX | absoluteY | indirect | indirectAbsoluteX
  | relativeWord | zeroPageRelative => 2

def size (mode : Mode) : Nat := mode.operandSize + 1

/-- Branch operands are stored relative to the address of the next instruction. -/
def isBranch : Mode → Bool
  | relative | relativeWord | zeroPageRelative => true
  | _ => false

theorem size_pos (mode : Mode) : 0 < mode.size := Nat.succ_pos _

theorem size_le_three (mode : Mode) : mode.size ≤ 3 := by cases mode <;> decide

end Mode

end RemoteDebugger
