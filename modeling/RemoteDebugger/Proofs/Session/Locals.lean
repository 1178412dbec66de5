import Mathlib.Data.Int.ModEq
import Mathlib.Data.Nat.Digits.Defs
import RemoteDebugger.Proofs.Instruction.Bytes
import RemoteDebugger.Proofs.Session.Frames

/-!
Locals of a stopped target. The address of a local is a sum of numbers of any size, of which sixteen
bits count; that the sum is taken with thirty-two bits does not show. What stands there is read as a
value of the local's size, its lowest byte first.
-/

set_option autoImplicit false

namespace RemoteDebugger

/-- The number that bytes write, the lowest byte first. -/
def littleEndian (bytes : List UInt8) : Nat := Nat.ofDigits 256 (bytes.map UInt8.toNat)

/-- The value is what the bytes hold: as many bytes as its kind has, and any other number of them as
they are. -/
def LocalData.Holds : LocalData → List UInt8 → Prop
  | byte value, bytes => bytes = [value]
  | word value, bytes => bytes.length = 2 ∧ value.toNat = littleEndian bytes
  | dword value, bytes => bytes.length = 4 ∧ value.toNat = littleEndian bytes
  | raw value, bytes => value = bytes ∧ bytes.length ∉ [1, 2, 4]

/-! Sums of thirty-two-bit words, as far as sixteen bits show them. -/

section Sums

theorem modEq_bmod (number : Int) : Int.ModEq 65536 (number.bmod (2 ^ 32)) number :=
  Int.ModEq.of_dvd (by decide) Int.bmod_emod

theorem modEq_ofNat (number : Nat) : Int.ModEq 65536 (Int32.ofNat number).toInt number := by
  rw [Int32.toInt_ofNat']
  exact modEq_bmod number

theorem modEq_add {first second : Int32} {one other : Int}
    (left : Int.ModEq 65536 first.toInt one) (right : Int.ModEq 65536 second.toInt other) :
    Int.ModEq 65536 (first + second).toInt (one + other) := by
  rw [Int32.toInt_add]
  exact (modEq_bmod _).trans (left.add right)

theorem toNat_low (word : Int32) : (word.toInt16.toUInt16.toNat : Int) = word.toInt % 65536 := by
  have small : word.toInt16.toUInt16.toNat < 65536 := word.toInt16.toUInt16.toNat_lt
  have half : word.toInt16.toInt = word.toInt.bmod (2 ^ 16) := Int32.toInt_toInt16 word
  have bits : word.toInt16.toInt = (word.toInt16.toUInt16.toNat : Int).bmod (2 ^ 16) :=
    BitVec.toInt_eq_toNat_bmod word.toInt16.toBitVec
  have same := congrArg (· % (65536 : Int)) (bits.symm.trans half)
  have reduce : ∀ number : Int, number.bmod (2 ^ 16) % 65536 = number % 65536 :=
    fun number => Int.bmod_emod
  simp only [reduce] at same
  omega

end Sums

/-- How many bytes of parameters the known ones of the functions at some addresses take. -/
def parameterSize (functionAt : UInt16 → Option Function) (addresses : List UInt16) : Nat :=
  ((addresses.filterMap functionAt).map fun caller => caller.paramSize.toNat).sum

/-- The total size of the locals with negative offsets. -/
def Function.negativeSize (function : Function) : Nat :=
  ((function.locals.filter fun entry => entry.offset < 0).map LocalVariable.size).sum

/-- Where a local is before the address is cut to sixteen bits: above the software stack come the
parameters of the callers, and above them the locals with negative offsets. -/
def localPlace (functionAt : UInt16 → Option Function) (pointer : Nat) (callers : List UInt16)
    (function : Function) (entry : LocalVariable) : Int :=
  pointer + parameterSize functionAt callers + function.negativeSize + entry.offset.toInt

namespace Action

theorem modEq_parameterBytes (functionAt : UInt16 → Option Function) (callers : List UInt16) :
    Int.ModEq 65536 ((callers.map functionAt).map parameterBytes).sum.toInt
      (parameterSize functionAt callers) := by
  induction callers with
  | nil => rfl
  | cons caller callers ih =>
    rw [List.map_cons, List.map_cons, List.sum_cons, parameterSize, List.filterMap_cons]
    cases functionAt caller with
    | none =>
      have unknown := modEq_add (modEq_ofNat 0) ih
      rwa [Nat.cast_zero, Int.zero_add] at unknown
    | some function =>
      rw [List.map_cons, List.sum_cons, Nat.cast_add]
      exact modEq_add (modEq_ofNat function.paramSize.toNat) ih

theorem modEq_negativeBytes (function : Function) :
    Int.ModEq 65536 (negativeBytes function).toInt function.negativeSize := by
  rw [negativeBytes, Function.negativeSize]
  induction function.locals.filter fun entry => entry.offset < 0 with
  | nil => rfl
  | cons entry entries ih =>
    rw [List.map_cons, List.map_cons, List.sum_cons, List.sum_cons, Nat.cast_add]
    exact modEq_add (modEq_ofNat entry.size) ih

theorem toNat_localAddress (functionAt : UInt16 → Option Function) (function : Function)
    (pointer : UInt16) (callers : List UInt16) (entry : LocalVariable) :
    ((localBase function pointer (callers.map functionAt) +
        entry.offset).toInt16.toUInt16.toNat : Int) =
      localPlace functionAt pointer.toNat callers function entry % 65536 := by
  have sum := modEq_add (modEq_add (modEq_add (modEq_ofNat pointer.toNat)
    (modEq_parameterBytes functionAt callers)) (modEq_negativeBytes function))
    (Int.ModEq.refl entry.offset.toInt)
  rw [toNat_low]
  exact sum

section Reading

variable {session : Session} {machine : Machine} {address : UInt16}

variable (legible : session.Legible machine)

include legible

theorem learns_window {α : Type} (place : Address) (look : Window → α) :
    (onLink fun link => do
      let window ← link.readWindow place
      pure (look window)).Learns session machine (look (Simulator.window machine place.physical)) := by
  have patient : 2 ≤ session.link.reads := Nat.le_of_succ_le legible.1
  apply learns_onLink
  intro simulator ready paused
  have read : (session.link.readWindow place).through simulator =
      (.ok (Simulator.window machine place.physical), simulator) := by
    rw [Simulator.through_readWindow ready.quiet (ready.takes _), if_pos patient, paused.holds]
  rw [Exchange.through_bind_of_ok read]
  rfl

variable {functionAt : UInt16 → Option Function}

theorem learns_localsBy_of_readLocals {function : Function} {pointer : UInt16}
    {values : List LocalValue}
    (known : functionAt (machine.frameAddresses.getD session.frame.index 0) = some function)
    (read : (onLink (·.peekWord (.cpu session.config.softStackPointer))).Learns session machine
      pointer)
    (listed : (readLocals (localBase function pointer
      ((machine.frameAddresses.tail.take session.frame.index).map functionAt))
      function.locals).Learns session machine values) :
    (localsBy functionAt).Learns session machine values := by
  apply learns_get.bind
  apply (learns_frameAddresses legible).bind
  rw [known]
  exact read.bind listed

end Reading

/-- Stopped in a subroutine, called from `0x2012`, that takes no parameters. -/
def calledWithLocals : Simulator :=
  { Simulator.loaded 0x01FD [0x60] with
    machine := (((Simulator.loaded 0x01FD [0x60]).machine.writeBytes 0x01FE [0x14, 0x20]).writeBytes
      0x0002 [0x00, 0xCF]).writeBytes 0xCF02 [0x2A, 0x01, 0x07, 0x08, 0x09] }

/-- The calling function, with a local below its base and one at it. -/
def caller : Function where
  name := "outer".toList
  address := 0x2010
  paramSize := 2
  locals := [⟨"count".toList, -2, 2⟩, ⟨"buffer".toList, 0, 3⟩]

theorem address_caller {frames : List Frame} {frame : Frame} {looked : Simulator}
    (traced : backtrace.through { frame := ⟨1⟩ } calledWithLocals =
      ((.ok frames, { frame := ⟨1⟩ }), looked))
    (found : frames[1]? = some frame) : frame.address = 0x2012 := by
  have second : (backtrace.through { frame := ⟨1⟩ } calledWithLocals).1.1.toOption.map
      (fun frames => frames[1]?.map Frame.address) = some (some 0x2012) := by decide +kernel
  rw [traced] at second
  have same : frames[1]?.map Frame.address = some 0x2012 := Option.some.inj second
  rw [found] at same
  exact Option.some.inj same

end Action

end RemoteDebugger
