import Mathlib.Logic.Function.Iterate
import RemoteDebugger.Proofs.Instruction.Bytes
import RemoteDebugger.Proofs.Machine.Execution

/-!
The stack of a machine. The bytes above the stack pointer, up to the end of the stack's page, are a
list to whose front bytes are pushed and from whose front they are pulled, as long as the stack
pointer does not wrap. A history says what the bytes of the list are there for: which calls have
pushed them that have not returned yet. Whatever else happens, the bytes are still those that were
pushed.
-/

set_option autoImplicit false

namespace RemoteDebugger

/-- What a byte on the stack was pushed for: as one half of the return address of the call at an
address, or as a value of its own. -/
inductive Pushed where
  | low (call : UInt16)
  | high (call : UInt16)
  | value
  deriving DecidableEq

namespace Effect

/-- What an effect pushes, the last byte first, if its instruction is at the address. -/
def pushes (pc : UInt16) : Effect → List Pushed
  | call _ => [.low pc, .high pc]
  | push => [.value]
  | _ => []

/-- How many bytes an effect pulls. -/
def pulls : Effect → Nat
  | leave => 2
  | resume => 3
  | pull => 1
  | _ => 0

end Effect

namespace Pushed

/-- A return address is that of the last byte of the call, which has three. -/
def Stands : Pushed → UInt8 → Prop
  | low call, byte => byte = lowByte (call + 2)
  | high call, byte => byte = highByte (call + 2)
  | value, _ => True

/-- The bytes start with those that were pushed. -/
def Top : List Pushed → List UInt8 → Prop
  | [], _ => True
  | _ :: _, [] => False
  | entry :: others, byte :: bytes => entry.Stands byte ∧ Top others bytes

theorem Top.drop {pushed : List Pushed} {bytes : List UInt8} (top : Top pushed bytes)
    (count : Nat) : Top (pushed.drop count) (bytes.drop count) := by
  induction count generalizing pushed bytes with
  | zero => exact top
  | succ count ih =>
    match pushed, bytes, top with
    | [], _, _ => exact trivial
    | _ :: _, _ :: _, top => exact ih top.2

theorem Top.take {pushed : List Pushed} {bytes : List UInt8} (top : Top pushed bytes)
    (count : Nat) : Top (pushed.take count) (bytes.take count) := by
  induction count generalizing pushed bytes with
  | zero => exact trivial
  | succ count ih =>
    match pushed, bytes, top with
    | [], _, _ => exact trivial
    | _ :: _, _ :: _, top => exact ⟨top.1, ih top.2⟩

theorem Top.append {pushed : List Pushed} {bytes : List UInt8} (top : Top pushed bytes)
    (deeper : List UInt8) : Top pushed (bytes ++ deeper) := by
  induction pushed generalizing bytes with
  | nil => exact trivial
  | cons entry others ih =>
    match bytes, top with
    | _ :: _, top => exact ⟨top.1, ih top.2⟩

end Pushed

namespace Machine

variable {machine other : Machine}

theorem toNat_wrapped (number : UInt16) :
    (0x0100 ||| (number &&& 0xFF)).toNat = 0x100 + number.toNat % 0x100 := by
  have low : (number &&& 0xFF).toNat = number.toNat % 0x100 := by
    rw [UInt16.toNat_and]
    exact Nat.and_two_pow_sub_one_eq_mod _ 8
  have small : number.toNat % 0x100 < 2 ^ 8 := Nat.mod_lt _ (by decide)
  have shifted := Nat.shiftLeft_add_eq_or_of_lt small 1
  rw [UInt16.toNat_or, low]
  exact shifted.symm

theorem toNat_below {sp : UInt16} (more : 0x100 < sp.toNat) (inside : sp.toNat ≤ 0x1FF) :
    (below sp).toNat = sp.toNat - 1 := by
  have down : (sp - 1).toNat = sp.toNat - 1 := by
    have one : (1 : UInt16) ≤ sp := UInt16.le_iff_toNat_le.mpr (show 1 ≤ sp.toNat by omega)
    exact UInt16.toNat_sub_of_le sp 1 one
  rw [below, toNat_wrapped, down]
  omega

theorem toNat_above {sp : UInt16} (inside : 0x100 ≤ sp.toNat) (less : sp.toNat < 0x1FF) :
    (above sp).toNat = sp.toNat + 1 := by
  have up : (sp + 1).toNat = sp.toNat + 1 := by
    rw [UInt16.toNat_add]
    exact Nat.mod_eq_of_lt (show sp.toNat + 1 < 0x10000 by omega)
  rw [above, toNat_wrapped, up]
  omega

/-- Bytes have room to be pushed or pulled, so many of each, before the stack pointer wraps out of
the page of the stack. -/
def HasRoom (machine : Machine) (pushed pulled : Nat) : Prop :=
  0x100 + pushed ≤ machine.registers.sp.toNat ∧ machine.registers.sp.toNat + pulled ≤ 0x1FF

instance (machine : Machine) (pushed pulled : Nat) : Decidable (machine.HasRoom pushed pulled) :=
  inferInstanceAs (Decidable (_ ∧ _))

/-- The bytes above the stack pointer, up to the end of the page. -/
def stackBytes (machine : Machine) : List UInt8 :=
  (List.range' (machine.registers.sp.toNat + 1) (0x1FF - machine.registers.sp.toNat)).map
    fun place => machine.byteAt (UInt16.ofNat place)

section Room

variable {count : Nat} {pushed : List Pushed}

theorem HasRoom.sp_push (room : machine.HasRoom (count + 1) 0) (value : UInt8) :
    (machine.push value).registers.sp.toNat = machine.registers.sp.toNat - 1 := by
  obtain ⟨less, inside⟩ := room
  have more : 0x100 < machine.registers.sp.toNat := by omega
  exact toNat_below more inside

theorem HasRoom.sp_pull (room : machine.HasRoom 0 (count + 1)) :
    machine.pull.2.registers.sp.toNat = machine.registers.sp.toNat + 1 := by
  obtain ⟨inside, more⟩ := room
  have less : machine.registers.sp.toNat < 0x1FF := by omega
  exact toNat_above inside less

theorem HasRoom.push (room : machine.HasRoom (count + 1) 0) (value : UInt8) :
    (machine.push value).HasRoom count 0 := by
  have down := room.sp_push value
  obtain ⟨more, inside⟩ := room
  rw [HasRoom, down]
  omega

theorem HasRoom.pull (room : machine.HasRoom 0 (count + 1)) : machine.pull.2.HasRoom 0 count := by
  have up := room.sp_pull
  obtain ⟨inside, less⟩ := room
  rw [HasRoom, up]
  omega

theorem stackBytes_push (room : machine.HasRoom (count + 1) 0) (value : UInt8) :
    (machine.push value).stackBytes = value :: machine.stackBytes := by
  have down := room.sp_push value
  obtain ⟨more, inside⟩ := room
  have longer : 0x1FF - (machine.registers.sp.toNat - 1) =
      0x1FF - machine.registers.sp.toNat + 1 := by omega
  have bytes : ∀ address, (machine.push value).byteAt address =
      if address = machine.registers.sp then value else machine.byteAt address :=
    fun address => byteAt_setByte machine machine.registers.sp address value
  rw [stackBytes, down, Nat.sub_add_cancel (by omega), longer, List.range'_succ, List.map_cons,
    bytes, UInt16.ofNat_toNat, if_pos rfl]
  congr 1
  apply List.map_congr_left
  intro place member
  obtain ⟨above, inPage⟩ := List.mem_range'_1.mp member
  rw [bytes, if_neg]
  intro same
  have equal := congrArg UInt16.toNat same
  rw [UInt16.toNat_ofNat'] at equal
  omega

theorem stackBytes_pull (room : machine.HasRoom 0 (count + 1)) :
    machine.pull.2.stackBytes = machine.stackBytes.drop 1 := by
  have up := room.sp_pull
  obtain ⟨inside, less⟩ := room
  have shorter : 0x1FF - machine.registers.sp.toNat =
      0x1FF - (machine.registers.sp.toNat + 1) + 1 := by omega
  rw [stackBytes, stackBytes, up, shorter, List.range'_succ]
  rfl

open Pushed (Top)

theorem top_pull (room : machine.HasRoom 0 (count + 1)) (top : Top pushed machine.stackBytes) :
    Top (pushed.drop 1) machine.pull.2.stackBytes := by
  rw [stackBytes_pull room]
  exact top.drop 1

theorem top_undergo {effect : Effect} {pc next : UInt16} (top : Top pushed machine.stackBytes)
    (room : machine.HasRoom (effect.pushes pc).length effect.pulls)
    (behind : ∀ target, effect = .call target → next = pc + 3) :
    (machine.undergo next effect).HasRoom 0 0 ∧
      Top (effect.pushes pc ++ pushed.drop effect.pulls)
        (machine.undergo next effect).stackBytes := by
  cases effect with
  | jump target => exact ⟨room, top⟩
  | call target =>
    have last : next - 1 = pc + 2 := by
      rw [behind target rfl, show (3 : UInt16) = 2 + 1 from rfl, ← UInt16.add_assoc,
        UInt16.add_sub_cancel]
    have first : machine.HasRoom (1 + 1) 0 := room
    have second := first.push (highByte (next - 1))
    have bytes : (machine.undergo next (.call target)).stackBytes =
        lowByte (next - 1) :: highByte (next - 1) :: machine.stackBytes := by
      show ((machine.push _).push _).stackBytes = _
      rw [stackBytes_push second, stackBytes_push first]
    refine ⟨second.push (lowByte (next - 1)), ?_⟩
    rw [bytes, last]
    exact ⟨rfl, rfl, top⟩
  | leave =>
    have first : machine.HasRoom 0 (1 + 1) := room
    have pulled := top_pull first.pull (top_pull first top)
    rw [List.drop_drop] at pulled
    exact ⟨first.pull.pull, pulled⟩
  | resume =>
    have first : machine.HasRoom 0 (1 + 1 + 1) := room
    have pulled := top_pull first.pull.pull (top_pull first.pull (top_pull first top))
    rw [List.drop_drop, List.drop_drop] at pulled
    exact ⟨first.pull.pull.pull, pulled⟩
  | push =>
    have first : machine.HasRoom (0 + 1) 0 := room
    have bytes : (machine.undergo next .push).stackBytes =
        machine.registers.a :: machine.stackBytes := stackBytes_push first machine.registers.a
    refine ⟨first.push machine.registers.a, ?_⟩
    rw [bytes]
    exact ⟨trivial, top⟩
  | pull =>
    have first : machine.HasRoom 0 (0 + 1) := room
    exact ⟨first.pull, top_pull first top⟩
  | load value => exact ⟨room, top⟩

end Room

/-- The next instruction has room on the stack for what it pushes or pulls. -/
def StaysInPage (machine : Machine) : Prop :=
  machine.HasRoom (machine.current.effect.pushes machine.registers.pc).length
    machine.current.effect.pulls

instance (machine : Machine) : Decidable machine.StaysInPage :=
  inferInstanceAs (Decidable (machine.HasRoom _ _))

theorem nextAddress_of_call {target : UInt16} (call : machine.current.effect = .call target) :
    machine.current.nextAddress = machine.registers.pc + 3 := by
  have size : machine.current.size = 3 := by
    have entry : machine.current.size = (Opcode.ofByte machine.current.opcode).mode.size := rfl
    rw [Instruction.effect] at call
    split at call
    case h_1 jsr _ =>
      rw [entry, jsr]
      rfl
    case h_2 bsr _ =>
      rw [entry, bsr]
      rfl
    all_goals cases call
  rw [Instruction.nextAddress, size]
  rfl

/-- What lies on the stack after the next instruction, if something is there before. -/
def pushedNext (machine : Machine) (pushed : List Pushed) : List Pushed :=
  machine.current.effect.pushes machine.registers.pc ++ pushed.drop machine.current.effect.pulls

/-- What lies on the stack after a run and what it was pushed for, the last byte first. Instructions
push and pull within the page of the stack; whatever else happens to the machine leaves the stack
pointer and the page alone. What is on the stack at the start was not pushed by the run. -/
inductive History : Machine → List Pushed → Prop where
  | started {machine : Machine} (inside : machine.HasRoom 0 0) : History machine []
  | executed {machine : Machine} {pushed : List Pushed} (before : History machine pushed)
      (stays : machine.StaysInPage) : History machine.execute (machine.pushedNext pushed)
  | altered {machine other : Machine} {pushed : List Pushed} (before : History machine pushed)
      (pointer : other.registers.sp = machine.registers.sp)
      (page : ∀ address : UInt16, 0x100 ≤ address.toNat → address.toNat ≤ 0x1FF →
        other.byteAt address = machine.byteAt address) :
      History other pushed

/-- What lies on the stack after so many instructions, if something is there before. -/
def pushedBy : Nat → Machine → List Pushed → List Pushed
  | 0, _, pushed => pushed
  | steps + 1, machine, pushed => pushedBy steps machine.execute (machine.pushedNext pushed)

theorem History.iterate {steps : Nat} {pushed : List Pushed} (before : History machine pushed)
    (stay : ∀ done < steps, (execute^[done] machine).StaysInPage) :
    History (execute^[steps] machine) (pushedBy steps machine pushed) := by
  induction steps generalizing machine pushed with
  | zero => exact before
  | succ steps ih =>
    have first : machine.StaysInPage := stay 0 (Nat.zero_lt_succ steps)
    exact ih (before.executed first) fun done less => stay (done + 1) (Nat.succ_lt_succ less)

theorem History.top {pushed : List Pushed} (history : History machine pushed) :
    machine.HasRoom 0 0 ∧ Pushed.Top pushed machine.stackBytes := by
  induction history with
  | started inside => exact ⟨inside, trivial⟩
  | @executed machine pushed _ stays ih =>
    have noted : Pushed.Top pushed (machine.noting machine.current.opcode).stackBytes := ih.2
    rw [execute_eq]
    exact top_undergo noted stays fun target call => nextAddress_of_call call
  | @altered machine other pushed _ pointer page ih =>
    have bytes : other.stackBytes = machine.stackBytes := by
      rw [stackBytes, stackBytes, pointer]
      apply List.map_congr_left
      intro place member
      obtain ⟨above, inPage⟩ := List.mem_range'_1.mp member
      obtain ⟨inside, -⟩ := ih.1
      have place_toNat : (UInt16.ofNat place).toNat = place := by
        rw [UInt16.toNat_ofNat']
        exact Nat.mod_eq_of_lt (by omega)
      exact page _ (by omega) (by omega)
    rw [HasRoom, pointer, bytes]
    exact ih

end Machine

end RemoteDebugger
