import RemoteDebugger.Proofs.Assembly.RoundTrip

/-!
Moving an instruction to another address. A branch is stored as a distance, so it keeps its bytes if
its target moves along with it, and nothing else about it changes; all other instructions keep their
bytes as they are. Both widths of branches count around the top of the view.
-/

set_option autoImplicit false

namespace RemoteDebugger

/-- The operand with its target moved on; a bare number may be one. The zero-page address of a bit
branch stays. -/
def Operand.moved (distance : UInt16) : Operand → Operand
  | .direct target => .direct (target + distance)
  | .zeroPageRelative page target => .zeroPageRelative page (target + distance)
  | operand => operand

/-- The decoded operand with its target moved on. -/
def OperandValue.moved (distance : UInt16) : OperandValue → OperandValue
  | .target address => .target (address + distance)
  | .bitBranch page address => .bitBranch page (address + distance)
  | value => value

open Encoding (displacement shortDisplacement?)
open Instruction (decode)

section Distance

variable (target address other : UInt16) (size : Nat)

theorem displacement_moved :
    displacement (target + (other - address)) other size = displacement target address size := by
  rw [displacement, displacement]
  grind

theorem shortDisplacement?_moved :
    shortDisplacement? (target + (other - address)) other size =
      shortDisplacement? target address size := by
  rw [shortDisplacement?, shortDisplacement?, Encoding.signedDisplacement,
    Encoding.signedDisplacement, displacement_moved]

theorem shortTarget_moved (distance : UInt8) :
    Instruction.shortTarget other size distance =
      Instruction.shortTarget address size distance + (other - address) := by
  rw [Instruction.shortTarget, Instruction.shortTarget]
  grind

theorem longTarget_moved (distance : UInt16) :
    Instruction.longTarget other size distance =
      Instruction.longTarget address size distance + (other - address) := by
  rw [Instruction.longTarget, Instruction.longTarget]
  grind

end Distance

section Storage

variable {mode : Mode} (operand : Operand) (address other : UInt16)

theorem operandBytes?_of_not_branch (plain : mode.isBranch = false) :
    mode.operandBytes? operand other = mode.operandBytes? operand address := by
  cases mode <;> simp [Mode.isBranch] at plain <;> cases operand <;> rfl

theorem operandBytes?_moved (branch : mode.isBranch = true) :
    mode.operandBytes? (operand.moved (other - address)) other =
      mode.operandBytes? operand address := by
  cases mode <;> simp [Mode.isBranch] at branch <;> cases operand <;>
    simp [Operand.moved, Mode.operandBytes?, displacement_moved, shortDisplacement?_moved]

theorem Mode.isBranch_of_narrower? {narrow wide : Mode} (short : wide.narrower? = some narrow) :
    narrow.isBranch = wide.isBranch := by
  cases wide <;> cases short <;> rfl

end Storage

theorem Instruction.decode_moved (bytes : List UInt8) (address other : UInt16) :
    decode bytes other = { decode bytes address with
      address := other
      operand := (decode bytes address).operand.moved (other - address) } := by
  simp only [decode]
  congr 1
  generalize (Opcode.ofByte (bytes.getD 0 0)).mode = mode
  cases mode <;>
    simp only [Instruction.operandValue, OperandValue.moved, ← shortTarget_moved, ← longTarget_moved]

namespace Encoding

variable {mnemonic : Text} {operand : Operand} {address : UInt16} {encoding : Encoding}

/-- The encoder's choice for one operand at one address is its choice for another operand elsewhere,
if both are stored alike in all modes that are branches as the chosen one is, or are not. -/
theorem ofOperand_of_stored_alike {moved : Operand} {other : UInt16}
    (encoded : ofOperand mnemonic operand address = .ok encoding)
    (alike : ∀ mode : Mode, mode.isBranch = encoding.mode.isBranch →
      mode.operandBytes? moved other = mode.operandBytes? operand address) :
    ofOperand mnemonic moved other = .ok encoding := by
  have formedAlike : ∀ mode : Mode, mode.isBranch = encoding.mode.isBranch →
      form? mnemonic moved other mode = form? mnemonic operand address mode := by
    intro mode same
    rw [form?, form?, alike mode same]
  obtain ⟨formed, shortest⟩ := ofOperand?_eq_some (ofOperand_eq_ok_iff.mp encoded)
  have formedThere := (formedAlike _ rfl).trans formed
  obtain ⟨chosen, choice⟩ := ofOperand?_isSome_of_form? formedThere
  obtain ⟨chosenFormed, chosenShortest⟩ := ofOperand?_eq_some choice
  rw [ofOperand_eq_ok_iff, choice]
  by_contra differs
  -- Were there another choice, each of the two would be the short form of the other.
  have apart : encoding ≠ chosen := fun same => differs (congrArg some same.symm)
  have short := chosenShortest _ _ formedThere apart
  rw [formedAlike _ (Mode.isBranch_of_narrower? short)] at chosenFormed
  have back := shortest _ _ chosenFormed apart.symm
  rw [Mode.narrower?_of_narrower? short] at back
  cases back

theorem moved_ne_self {mode : Mode} {distance : UInt16} (branch : mode.isBranch = true)
    (member : mode ∈ operand.modes) (far : distance ≠ 0) : operand.moved distance ≠ operand := by
  have target_ne : ∀ target : UInt16, target + distance ≠ target := by
    intro target same
    exact far (by grind)
  cases operand with
  | direct target => exact fun same => target_ne target (Operand.direct.inj same)
  | zeroPageRelative page target =>
    exact fun same => target_ne target (Operand.zeroPageRelative.inj same).2
  | _ => cases mode <;> simp [Mode.isBranch, Operand.modes] at branch member

/-- Encodings are independent of the address, except for branches; those are not. An encoding that is
no branch is the encoding everywhere. One that is a branch is the encoding at another address for the
target moved along, where its bytes decode to what they decode to here, but for the address and the
target; for the same target it is the encoding here only. -/
theorem ofOperand_elsewhere (encoded : ofOperand mnemonic operand address = .ok encoding)
    (other : UInt16) :
    (encoding.mode.isBranch = false → ofOperand mnemonic operand other = .ok encoding) ∧
    (encoding.mode.isBranch = true →
      ofOperand mnemonic (operand.moved (other - address)) other = .ok encoding ∧
        decode encoding.bytes other = { decode encoding.bytes address with
          address := other
          operand := (decode encoding.bytes address).operand.moved (other - address) } ∧
        (ofOperand mnemonic operand other = .ok encoding ↔ other = address)) := by
  refine ⟨fun plain => ?_, fun branch => ?_⟩
  · exact ofOperand_of_stored_alike encoded fun mode same =>
      operandBytes?_of_not_branch operand address other (same.trans plain)
  have moved := ofOperand_of_stored_alike encoded fun mode same =>
    operandBytes?_moved operand address other (same.trans branch)
  refine ⟨moved, Instruction.decode_moved encoding.bytes address other, ?_, ?_⟩
  · intro there
    have formed := (ofOperand?_eq_some (ofOperand_eq_ok_iff.mp there)).1
    have movedFormed := (ofOperand?_eq_some (ofOperand_eq_ok_iff.mp moved)).1
    obtain ⟨-, -, -, -, written⟩ := decode_form? formed
    obtain ⟨-, -, -, -, movedWritten⟩ := decode_form? movedFormed
    by_contra apart
    refine moved_ne_self branch (mem_modes_of_form? formed) ?_ (movedWritten.symm.trans written)
    intro none
    exact apart (by grind)
  · rintro rfl
    exact encoded

theorem ofOperand_elsewhere_wrapping :
    ofOperand "BNE".toList (.direct 0x0010) 0xFFF0 = .ok ⟨[0xD0, 0x1E], 0xD0, .relative⟩ ∧
      ofOperand "BNE".toList (.direct 0x0011) 0xFFF1 = .ok ⟨[0xD0, 0x1E], 0xD0, .relative⟩ :=
  have encoded : ofOperand "BNE".toList (.direct 0x0010) 0xFFF0 =
      .ok ⟨[0xD0, 0x1E], 0xD0, .relative⟩ := by
    decide +kernel
  ⟨encoded, ((ofOperand_elsewhere encoded 0xFFF1).2 rfl).1⟩

end Encoding

end RemoteDebugger
