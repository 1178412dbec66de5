import RemoteDebugger.Instruction.Mode
import RemoteDebugger.Text.Blank

/-!
The opcode table. All 256 opcodes are instructions, and no two of them share both mnemonic and
addressing mode, so a table entry and its opcode determine each other.
-/

set_option autoImplicit false

namespace RemoteDebugger

structure Opcode where
  mnemonic : Text
  mode : Mode
  deriving DecidableEq, Repr

namespace Opcode

def row0 : List Opcode :=
  [⟨"BRK", .implicit⟩, ⟨"ORA", .indirectX⟩, ⟨"CLE", .implicit⟩, ⟨"SEE", .implicit⟩,
    ⟨"TSB", .zeroPage⟩, ⟨"ORA", .zeroPage⟩, ⟨"ASL", .zeroPage⟩, ⟨"RMB0", .zeroPage⟩,
    ⟨"PHP", .implicit⟩, ⟨"ORA", .immediate⟩, ⟨"ASL", .accumulator⟩, ⟨"TSY", .implicit⟩,
    ⟨"TSB", .absolute⟩, ⟨"ORA", .absolute⟩, ⟨"ASL", .absolute⟩, ⟨"BBR0", .zeroPageRelative⟩]

def row1 : List Opcode :=
  [⟨"BPL", .relative⟩, ⟨"ORA", .indirectY⟩, ⟨"ORA", .indirectZ⟩, ⟨"BPL", .relativeWord⟩,
    ⟨"TRB", .zeroPage⟩, ⟨"ORA", .zeroPageX⟩, ⟨"ASL", .zeroPageX⟩, ⟨"RMB1", .zeroPage⟩,
    ⟨"CLC", .implicit⟩, ⟨"ORA", .absoluteY⟩, ⟨"INC", .accumulator⟩, ⟨"INZ", .implicit⟩,
    ⟨"TRB", .absolute⟩, ⟨"ORA", .absoluteX⟩, ⟨"ASL", .absoluteX⟩, ⟨"BBR1", .zeroPageRelative⟩]

def row2 : List Opcode :=
  [⟨"JSR", .absolute⟩, ⟨"AND", .indirectX⟩, ⟨"JSR", .indirect⟩, ⟨"JSR", .indirectAbsoluteX⟩,
    ⟨"BIT", .zeroPage⟩, ⟨"AND", .zeroPage⟩, ⟨"ROL", .zeroPage⟩, ⟨"RMB2", .zeroPage⟩,
    ⟨"PLP", .implicit⟩, ⟨"AND", .immediate⟩, ⟨"ROL", .accumulator⟩, ⟨"TYS", .implicit⟩,
    ⟨"BIT", .absolute⟩, ⟨"AND", .absolute⟩, ⟨"ROL", .absolute⟩, ⟨"BBR2", .zeroPageRelative⟩]

def row3 : List Opcode :=
  [⟨"BMI", .relative⟩, ⟨"AND", .indirectY⟩, ⟨"AND", .indirectZ⟩, ⟨"BMI", .relativeWord⟩,
    ⟨"BIT", .zeroPageX⟩, ⟨"AND", .zeroPageX⟩, ⟨"ROL", .zeroPageX⟩, ⟨"RMB3", .zeroPage⟩,
    ⟨"SEC", .implicit⟩, ⟨"AND", .absoluteY⟩, ⟨"DEC", .accumulator⟩, ⟨"DEZ", .implicit⟩,
    ⟨"BIT", .absoluteX⟩, ⟨"AND", .absoluteX⟩, ⟨"ROL", .absoluteX⟩, ⟨"BBR3", .zeroPageRelative⟩]

def row4 : List Opcode :=
  [⟨"RTI", .implicit⟩, ⟨"EOR", .indirectX⟩, ⟨"NEG", .accumulator⟩, ⟨"ASR", .accumulator⟩,
    ⟨"ASR", .zeroPage⟩, ⟨"EOR", .zeroPage⟩, ⟨"LSR", .zeroPage⟩, ⟨"RMB4", .zeroPage⟩,
    ⟨"PHA", .implicit⟩, ⟨"EOR", .immediate⟩, ⟨"LSR", .accumulator⟩, ⟨"TAZ", .implicit⟩,
    ⟨"JMP", .absolute⟩, ⟨"EOR", .absolute⟩, ⟨"LSR", .absolute⟩, ⟨"BBR4", .zeroPageRelative⟩]

def row5 : List Opcode :=
  [⟨"BVC", .relative⟩, ⟨"EOR", .indirectY⟩, ⟨"EOR", .indirectZ⟩, ⟨"BVC", .relativeWord⟩,
    ⟨"ASR", .zeroPageX⟩, ⟨"EOR", .zeroPageX⟩, ⟨"LSR", .zeroPageX⟩, ⟨"RMB5", .zeroPage⟩,
    ⟨"CLI", .implicit⟩, ⟨"EOR", .absoluteY⟩, ⟨"PHY", .implicit⟩, ⟨"TAB", .implicit⟩,
    ⟨"MAP", .implicit⟩, ⟨"EOR", .absoluteX⟩, ⟨"LSR", .absoluteX⟩, ⟨"BBR5", .zeroPageRelative⟩]

def row6 : List Opcode :=
  [⟨"RTS", .implicit⟩, ⟨"ADC", .indirectX⟩, ⟨"RTN", .immediate⟩, ⟨"BSR", .relativeWord⟩,
    ⟨"STZ", .zeroPage⟩, ⟨"ADC", .zeroPage⟩, ⟨"ROR", .zeroPage⟩, ⟨"RMB6", .zeroPage⟩,
    ⟨"PLA", .implicit⟩, ⟨"ADC", .immediate⟩, ⟨"ROR", .accumulator⟩, ⟨"TZA", .implicit⟩,
    ⟨"JMP", .indirect⟩, ⟨"ADC", .absolute⟩, ⟨"ROR", .absolute⟩, ⟨"BBR6", .zeroPageRelative⟩]

def row7 : List Opcode :=
  [⟨"BVS", .relative⟩, ⟨"ADC", .indirectY⟩, ⟨"ADC", .indirectZ⟩, ⟨"BVS", .relativeWord⟩,
    ⟨"STZ", .zeroPageX⟩, ⟨"ADC", .zeroPageX⟩, ⟨"ROR", .zeroPageX⟩, ⟨"RMB7", .zeroPage⟩,
    ⟨"SEI", .implicit⟩, ⟨"ADC", .absoluteY⟩, ⟨"PLY", .implicit⟩, ⟨"TBA", .implicit⟩,
    ⟨"JMP", .indirectAbsoluteX⟩, ⟨"ADC", .absoluteX⟩, ⟨"ROR", .absoluteX⟩,
    ⟨"BBR7", .zeroPageRelative⟩]

def row8 : List Opcode :=
  [⟨"BRA", .relative⟩, ⟨"STA", .indirectX⟩, ⟨"STA", .stackIndirectY⟩, ⟨"BRA", .relativeWord⟩,
    ⟨"STY", .zeroPage⟩, ⟨"STA", .zeroPage⟩, ⟨"STX", .zeroPage⟩, ⟨"SMB0", .zeroPage⟩,
    ⟨"DEY", .implicit⟩, ⟨"BIT", .immediate⟩, ⟨"TXA", .implicit⟩, ⟨"STY", .absoluteX⟩,
    ⟨"STY", .absolute⟩, ⟨"STA", .absolute⟩, ⟨"STX", .absolute⟩, ⟨"BBS0", .zeroPageRelative⟩]

def row9 : List Opcode :=
  [⟨"BCC", .relative⟩, ⟨"STA", .indirectY⟩, ⟨"STA", .indirectZ⟩, ⟨"BCC", .relativeWord⟩,
    ⟨"STY", .zeroPageX⟩, ⟨"STA", .zeroPageX⟩, ⟨"STX", .zeroPageY⟩, ⟨"SMB1", .zeroPage⟩,
    ⟨"TYA", .implicit⟩, ⟨"STA", .absoluteY⟩, ⟨"TXS", .implicit⟩, ⟨"STX", .absoluteY⟩,
    ⟨"STZ", .absolute⟩, ⟨"STA", .absoluteX⟩, ⟨"STZ", .absoluteX⟩, ⟨"BBS1", .zeroPageRelative⟩]

def rowA : List Opcode :=
  [⟨"LDY", .immediate⟩, ⟨"LDA", .indirectX⟩, ⟨"LDX", .immediate⟩, ⟨"LDZ", .immediate⟩,
    ⟨"LDY", .zeroPage⟩, ⟨"LDA", .zeroPage⟩, ⟨"LDX", .zeroPage⟩, ⟨"SMB2", .zeroPage⟩,
    ⟨"TAY", .implicit⟩, ⟨"LDA", .immediate⟩, ⟨"TAX", .implicit⟩, ⟨"LDZ", .absolute⟩,
    ⟨"LDY", .absolute⟩, ⟨"LDA", .absolute⟩, ⟨"LDX", .absolute⟩, ⟨"BBS2", .zeroPageRelative⟩]

def rowB : List Opcode :=
  [⟨"BCS", .relative⟩, ⟨"LDA", .indirectY⟩, ⟨"LDA", .indirectZ⟩, ⟨"BCS", .relativeWord⟩,
    ⟨"LDY", .zeroPageX⟩, ⟨"LDA", .zeroPageX⟩, ⟨"LDX", .zeroPageY⟩, ⟨"SMB3", .zeroPage⟩,
    ⟨"CLV", .implicit⟩, ⟨"LDA", .absoluteY⟩, ⟨"TSX", .implicit⟩, ⟨"LDZ", .absoluteX⟩,
    ⟨"LDY", .absoluteX⟩, ⟨"LDA", .absoluteX⟩, ⟨"LDX", .absoluteY⟩, ⟨"BBS3", .zeroPageRelative⟩]

def rowC : List Opcode :=
  [⟨"CPY", .immediate⟩, ⟨"CMP", .indirectX⟩, ⟨"CPZ", .immediate⟩, ⟨"DEW", .zeroPage⟩,
    ⟨"CPY", .zeroPage⟩, ⟨"CMP", .zeroPage⟩, ⟨"DEC", .zeroPage⟩, ⟨"SMB4", .zeroPage⟩,
    ⟨"INY", .implicit⟩, ⟨"CMP", .immediate⟩, ⟨"DEX", .implicit⟩, ⟨"ASW", .absolute⟩,
    ⟨"CPY", .absolute⟩, ⟨"CMP", .absolute⟩, ⟨"DEC", .absolute⟩, ⟨"BBS4", .zeroPageRelative⟩]

def rowD : List Opcode :=
  [⟨"BNE", .relative⟩, ⟨"CMP", .indirectY⟩, ⟨"CMP", .indirectZ⟩, ⟨"BNE", .relativeWord⟩,
    ⟨"CPZ", .zeroPage⟩, ⟨"CMP", .zeroPageX⟩, ⟨"DEC", .zeroPageX⟩, ⟨"SMB5", .zeroPage⟩,
    ⟨"CLD", .implicit⟩, ⟨"CMP", .absoluteY⟩, ⟨"PHX", .implicit⟩, ⟨"PHZ", .implicit⟩,
    ⟨"CPZ", .absolute⟩, ⟨"CMP", .absoluteX⟩, ⟨"DEC", .absoluteX⟩, ⟨"BBS5", .zeroPageRelative⟩]

def rowE : List Opcode :=
  [⟨"CPX", .immediate⟩, ⟨"SBC", .indirectX⟩, ⟨"LDA", .stackIndirectY⟩, ⟨"INW", .zeroPage⟩,
    ⟨"CPX", .zeroPage⟩, ⟨"SBC", .zeroPage⟩, ⟨"INC", .zeroPage⟩, ⟨"SMB6", .zeroPage⟩,
    ⟨"INX", .implicit⟩, ⟨"SBC", .immediate⟩, ⟨"EOM", .implicit⟩, ⟨"ROW", .absolute⟩,
    ⟨"CPX", .absolute⟩, ⟨"SBC", .absolute⟩, ⟨"INC", .absolute⟩, ⟨"BBS6", .zeroPageRelative⟩]

def rowF : List Opcode :=
  [⟨"BEQ", .relative⟩, ⟨"SBC", .indirectY⟩, ⟨"SBC", .indirectZ⟩, ⟨"BEQ", .relativeWord⟩,
    ⟨"PHW", .immediateWord⟩, ⟨"SBC", .zeroPageX⟩, ⟨"INC", .zeroPageX⟩, ⟨"SMB7", .zeroPage⟩,
    ⟨"SED", .implicit⟩, ⟨"SBC", .absoluteY⟩, ⟨"PLX", .implicit⟩, ⟨"PLZ", .implicit⟩,
    ⟨"PHW", .absolute⟩, ⟨"SBC", .absoluteX⟩, ⟨"INC", .absoluteX⟩, ⟨"BBS7", .zeroPageRelative⟩]

def rows : List Opcode :=
  row0 ++ row1 ++ row2 ++ row3 ++ row4 ++ row5 ++ row6 ++ row7 ++
    row8 ++ row9 ++ rowA ++ rowB ++ rowC ++ rowD ++ rowE ++ rowF

theorem length_rows : rows.length = 256 := by decide +kernel

def table : Vector Opcode 256 := ⟨rows.toArray, length_rows⟩

def ofByte (byte : UInt8) : Opcode := table.get byte.toFin

def size (opcode : Opcode) : Nat := opcode.mode.size

/-- The opcode byte of a mnemonic in a mode. The mnemonic is compared as it is written. -/
def byte? (mnemonic : Text) (mode : Mode) : Option UInt8 :=
  (rows.findIdx? fun opcode => opcode.mnemonic == mnemonic && opcode.mode == mode).map UInt8.ofNat

/-- The table's spelling of a mnemonic: trimmed, in upper case. `NOP` is another name of `EOM`. -/
def canonical (mnemonic : Text) : Text :=
  let upper := Text.upper (Text.trim mnemonic)
  if upper = "NOP".toList then "EOM" else upper

/-- Whether some opcode has this mnemonic, in any spelling. -/
def isMnemonic (mnemonic : Text) : Bool :=
  rows.any fun opcode => opcode.mnemonic == canonical mnemonic

end Opcode

end RemoteDebugger
