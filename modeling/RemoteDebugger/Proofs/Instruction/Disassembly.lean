import Mathlib.Algebra.GroupWithZero.Nat
import RemoteDebugger.Proofs.Instruction.Decoding

/-!
Disassembling is complete. The instructions of a block of bytes are the block, cut into pieces: each
starts where the one before it ends, in the block and in the view, and only the last one can reach
past the end of the block, where it is completed by zeros.
-/

set_option autoImplicit false

namespace RemoteDebugger.Instruction

/-- How many bytes the first so many of some instructions have. -/
def extent (instructions : List Instruction) (count : Nat) : Nat :=
  ((instructions.take count).map (·.size)).sum

@[simp] theorem extent_zero (instructions : List Instruction) : extent instructions 0 = 0 := rfl

@[simp] theorem extent_cons_succ (instruction : Instruction) (others : List Instruction)
    (count : Nat) :
    extent (instruction :: others) (count + 1) = instruction.size + extent others count :=
  List.sum_cons

variable {bytes : List UInt8} {start : UInt16}

theorem disassemble_of_ne_nil (occupied : bytes ≠ []) (start : UInt16) :
    disassemble bytes start = decode bytes start ::
      disassemble (bytes.drop (decode bytes start).size) (decode bytes start).nextAddress := by
  obtain ⟨byte, rest, rfl⟩ := List.exists_cons_of_ne_nil occupied
  exact disassemble_cons byte rest start

/-- What holds of no bytes, and of bytes whenever it holds of those behind the first instruction. -/
theorem disassemble_induction {motive : List UInt8 → UInt16 → Prop} (nil : ∀ start, motive [] start)
    (cons : ∀ bytes start, bytes ≠ [] →
      motive (bytes.drop (decode bytes start).size) (decode bytes start).nextAddress →
        motive bytes start) (bytes : List UInt8) (start : UInt16) : motive bytes start := by
  induction total : bytes.length using Nat.strongRecOn generalizing bytes start with
  | ind count ih =>
    by_cases empty : bytes = []
    · rw [empty]
      exact nil start
    · have positive : 0 < (decode bytes start).size := Mode.size_pos _
      have occupied := List.length_pos_iff.mpr empty
      have shorter : (bytes.drop (decode bytes start).size).length < count := by
        rw [List.length_drop]
        omega
      exact cons bytes start empty (ih _ shorter _ _ rfl)

theorem flatMap_stored_disassemble (bytes : List UInt8) (start : UInt16) :
    ∃ missing ≤ 2, (disassemble bytes start).flatMap stored =
      bytes ++ List.replicate missing 0 := by
  induction bytes, start using disassemble_induction with
  | nil start => exact ⟨0, Nat.zero_le 2, rfl⟩
  | cons bytes start occupied ih =>
    rw [disassemble_of_ne_nil occupied, List.flatMap_cons]
    rcases Nat.le_total (decode bytes start).size bytes.length with whole | cut
    · obtain ⟨missing, few, rest⟩ := ih
      refine ⟨missing, few, ?_⟩
      rw [rest, stored_decode_of_le whole, ← List.append_assoc, List.take_append_drop]
    · -- Nothing is behind an instruction that is cut short, so it is the last one.
      have short : (decode bytes start).size ≤ 3 := Mode.size_le_three _
      have some : 0 < bytes.length := List.length_pos_iff.mpr occupied
      refine ⟨(decode bytes start).size - bytes.length, by omega, ?_⟩
      rw [stored_decode, List.drop_of_length_le cut, List.take_of_length_le cut, disassemble_nil,
        List.flatMap_nil, List.append_nil]

theorem getElem?_disassemble (bytes : List UInt8) (start : UInt16) {index : Nat}
    {instruction : Instruction} (found : (disassemble bytes start)[index]? = some instruction) :
    extent (disassemble bytes start) index < bytes.length ∧
      instruction = decode (bytes.drop (extent (disassemble bytes start) index))
        (start + UInt16.ofNat (extent (disassemble bytes start) index)) := by
  induction bytes, start using disassemble_induction generalizing index with
  | nil start => exact absurd found (by simp [disassemble_nil])
  | cons bytes start occupied ih =>
    rw [disassemble_of_ne_nil occupied] at found ⊢
    cases index with
    | zero =>
      rw [List.getElem?_cons_zero, Option.some.injEq] at found
      have here : start + UInt16.ofNat 0 = start := UInt16.add_zero start
      rw [extent_zero, List.drop_zero, here]
      exact ⟨List.length_pos_iff.mpr occupied, found.symm⟩
    | succ index =>
      obtain ⟨within, decoded⟩ := ih found
      rw [List.length_drop] at within
      rw [List.drop_drop] at decoded
      rw [extent_cons_succ, UInt16.ofNat_add, ← UInt16.add_assoc]
      exact ⟨Nat.add_lt_of_lt_sub' within, decoded⟩

/-- Disassembling loses and invents nothing: the stored bytes of the instructions are the block and
at most two zeros, every instruction counts its own bytes, and each is at the address that is as far
from the start as those before it are long. None starts behind the block. -/
theorem disassemble_covers (bytes : List UInt8) (start : UInt16) :
    (∃ missing ≤ 2, (disassemble bytes start).flatMap stored =
      bytes ++ List.replicate missing 0) ∧
    (∀ instruction ∈ disassemble bytes start,
      instruction.size = 1 + instruction.operandBytes.length) ∧
    ∀ index instruction, (disassemble bytes start)[index]? = some instruction →
      instruction.address = start + UInt16.ofNat (extent (disassemble bytes start) index) ∧
        extent (disassemble bytes start) index < bytes.length := by
  refine ⟨flatMap_stored_disassemble bytes start, ?_, ?_⟩
  · intro instruction member
    obtain ⟨index, found⟩ := List.mem_iff_getElem?.mp member
    rw [(getElem?_disassemble bytes start found).2]
    exact size_eq_length_operandBytes _ _
  · intro index instruction found
    obtain ⟨within, decoded⟩ := getElem?_disassemble bytes start found
    exact ⟨congrArg Instruction.address decoded, within⟩

/-- A jump at the top of the view that is cut short before its last byte. -/
example : (disassemble [0xA9, 0x01, 0x4C, 0x00] 0xFFFE).map (fun instruction =>
    (instruction.address, instruction.stored)) =
      [(0xFFFE, [0xA9, 0x01]), (0x0000, [0x4C, 0x00, 0x00])] := by
  decide

end RemoteDebugger.Instruction
