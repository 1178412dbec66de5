import RemoteDebugger.Instruction.Basic

/-!
What decoding looks at. An instruction depends on as many bytes as it has and on none behind them;
its stored bytes are those, completed by zeros where they run out.
-/

set_option autoImplicit false

namespace RemoteDebugger

theorem Mode.operandSize_le_two (mode : Mode) : mode.operandSize ≤ 2 :=
  Nat.le_of_succ_le_succ mode.size_le_three

namespace Instruction

/-- The bytes of an instruction as they are stored. -/
def stored (instruction : Instruction) : List UInt8 := instruction.opcode :: instruction.operandBytes

private theorem operand_congr (mode : Mode) (address : UInt16) {first second third fourth : UInt8}
    (low : 1 ≤ mode.operandSize → third = first)
    (high : 2 ≤ mode.operandSize → fourth = second) :
    [third, fourth].take mode.operandSize = [first, second].take mode.operandSize ∧
      operandValue mode third fourth address = operandValue mode first second address := by
  cases mode <;> simp_all [Mode.operandSize, operandValue]

theorem decode_congr {bytes others : List UInt8} {address : UInt16}
    (same : ∀ index < (decode bytes address).size, others.getD index 0 = bytes.getD index 0) :
    decode others address = decode bytes address := by
  have opcode := same 0 (Mode.size_pos _)
  obtain ⟨stored, value⟩ := operand_congr (Opcode.ofByte (bytes.getD 0 0)).mode address
    (fun one => same 1 (Nat.lt_succ_of_le one)) (fun two => same 2 (Nat.lt_succ_of_le two))
  simp only [decode, opcode, stored, value]

theorem decode_append {bytes : List UInt8} {address : UInt16}
    (whole : bytes.length = (decode bytes address).size) (rest : List UInt8) :
    decode (bytes ++ rest) address = decode bytes address := by
  apply decode_congr
  intro index small
  rw [← whole] at small
  rw [List.getD_eq_getElem?_getD, List.getD_eq_getElem?_getD, List.getElem?_append_left small]

theorem size_decode (bytes : List UInt8) (address other : UInt16) :
    (decode bytes address).size = (decode bytes other).size :=
  rfl

theorem size_eq_length_operandBytes (bytes : List UInt8) (address : UInt16) :
    (decode bytes address).size = 1 + (decode bytes address).operandBytes.length := by
  have short := (decode bytes address).mode.operandSize_le_two
  show (decode bytes address).mode.operandSize + 1 = 1 + (List.take _ [_, _]).length
  rw [List.length_take_of_le short, Nat.add_comm]
  rfl

theorem length_operandBytes_le_two (bytes : List UInt8) (address : UInt16) :
    (decode bytes address).operandBytes.length ≤ 2 :=
  List.length_take_le' _ [_, _]

theorem stored_decode (bytes : List UInt8) (address : UInt16) :
    (decode bytes address).stored = bytes.take (decode bytes address).size ++
      List.replicate ((decode bytes address).size - bytes.length) 0 := by
  have short := (decode bytes address).mode.operandSize_le_two
  show bytes.getD 0 0 :: [bytes.getD 1 0, bytes.getD 2 0].take (decode bytes address).mode.operandSize
    = bytes.take ((decode bytes address).mode.operandSize + 1) ++
      List.replicate ((decode bytes address).mode.operandSize + 1 - bytes.length) 0
  generalize (decode bytes address).mode.operandSize = count at short
  match bytes, count with
  | [], 0 | [], 1 | [], 2 => rfl
  | [_], 0 | [_], 1 | [_], 2 => rfl
  | [_, _], 0 | [_, _], 1 | [_, _], 2 => rfl
  | _ :: _ :: _ :: rest, 0 | _ :: _ :: _ :: rest, 1 | _ :: _ :: _ :: rest, 2 => simp

theorem stored_decode_of_le {bytes : List UInt8} {address : UInt16}
    (enough : (decode bytes address).size ≤ bytes.length) :
    (decode bytes address).stored = bytes.take (decode bytes address).size := by
  rw [stored_decode, Nat.sub_eq_zero_of_le enough, List.replicate_zero, List.append_nil]

end Instruction

end RemoteDebugger
