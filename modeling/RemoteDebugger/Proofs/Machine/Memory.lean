import RemoteDebugger.Machine.Basic
import RemoteDebugger.Proofs.Memory.Address

/-!
Bytes of a machine. A monitor address in the processor's window shows one byte of the view; writing
bytes one after another from there changes these bytes of the view and nothing else, as long as
they do not run past its top.
-/

set_option autoImplicit false

namespace RemoteDebugger.Machine

variable {machine : Machine}

theorem byteAt_setByte (machine : Machine) (address other : UInt16) (value : UInt8) :
    (machine.setByte address value).byteAt other =
      if other = address then value else machine.byteAt other := by
  show Cells.read 16 (Cells.write 16 machine.view address.toNat value) other.toNat = _
  rw [Cells.read_write_of_lt _ _ address.toNat_lt other.toNat_lt]
  simp only [UInt16.toNat_inj]
  rfl

theorem read_eq {one other : Machine} (bytes : ∀ address, one.byteAt address = other.byteAt address)
    (flat : one.flat = other.flat) (physical : UInt32) :
    one.read physical = other.read physical := by
  rw [read, read, bytes, flat]

theorem toNat_physical_cpu (address : UInt16) :
    (Address.cpu address).physical.toNat = 0x07770000 + address.toNat :=
  (Address.cpu address).toNat_physical

theorem physical_cpu_add {address : UInt16} {distance : Nat}
    (fits : address.toNat + distance < 0x10000) :
    (Address.cpu address).physical + UInt32.ofNat distance =
      (Address.cpu (address + UInt16.ofNat distance)).physical := by
  have small : distance % 2 ^ 16 = distance := Nat.mod_eq_of_lt (by omega)
  rw [← UInt32.toNat_inj, UInt32.toNat_add, toNat_physical_cpu, toNat_physical_cpu,
    UInt16.toNat_add, UInt32.toNat_ofNat', UInt16.toNat_ofNat', small]
  omega

private theorem isView_cpu (address : UInt16) : isView (Address.cpu address).physical = true := by
  have bound : address.toNat < 2 ^ 16 := address.toNat_lt
  have top : (Address.cpu address).physical >>> 16 = 0x777 := by
    rw [← UInt32.toNat_inj, UInt32.toNat_shiftRight, toNat_physical_cpu]
    show (0x07770000 + address.toNat) >>> 16 = 0x777
    rw [Nat.shiftRight_eq_div_pow]
    omega
  rw [isView, top]
  exact Bool.or_true _

private theorem toUInt16_cpu (address : UInt16) :
    (Address.cpu address).physical.toUInt16 = address := by
  have bound : address.toNat < 2 ^ 16 := address.toNat_lt
  rw [← UInt16.toNat_inj, UInt32.toNat_toUInt16, toNat_physical_cpu]
  omega

theorem read_cpu (machine : Machine) (address : UInt16) :
    machine.read (Address.cpu address).physical = machine.byteAt address := by
  rw [read, isView_cpu, if_pos rfl, toUInt16_cpu]

theorem write_cpu (machine : Machine) (address : UInt16) (value : UInt8) :
    machine.write (Address.cpu address).physical value = machine.setByte address value := by
  rw [write, isView_cpu, if_pos rfl, toUInt16_cpu]

theorem write_registers (machine : Machine) (physical : UInt32) (value : UInt8) :
    (machine.write physical value).registers = machine.registers := by
  rw [write]
  split <;> rfl

theorem writeBytes_registers (machine : Machine) (physical : UInt32) (bytes : List UInt8) :
    (machine.writeBytes physical bytes).registers = machine.registers := by
  induction bytes generalizing machine physical with
  | nil => rfl
  | cons byte bytes ih => rw [writeBytes, ih, write_registers]

private theorem toNat_sub_succ (address other : UInt16) :
    (other - (address + 1)).toNat =
      if other = address then 0xFFFF else (other - address).toNat - 1 := by
  have bound := address.toNat_lt
  have otherBound := other.toNat_lt
  have one : (1 : UInt16).toNat = 1 := rfl
  simp only [← UInt16.toNat_inj, UInt16.toNat_sub, UInt16.toNat_add, one]
  split <;> omega

private theorem getD_cons_sub (byte : UInt8) (bytes : List UInt8) (address other : UInt16)
    (default : UInt8) :
    (byte :: bytes).getD (other - address).toNat default =
      if other = address then byte else bytes.getD (other - (address + 1)).toNat default := by
  rw [toNat_sub_succ]
  split
  · rename_i same
    rw [same, UInt16.sub_self]
    rfl
  · rename_i apart
    have far : (other - address).toNat ≠ 0 := by
      intro zero
      have none : other - address = 0 := UInt16.toNat_inj.mp zero
      rw [← UInt16.sub_add_cancel other address, none, UInt16.zero_add] at apart
      exact apart rfl
    obtain ⟨distance, same⟩ := Nat.exists_eq_succ_of_ne_zero far
    rw [same, List.getD_cons_succ, Nat.succ_sub_one]

theorem writeBytes_cpu (machine : Machine) (address : UInt16) (bytes : List UInt8)
    (fits : address.toNat + bytes.length ≤ 0x10000) :
    (machine.writeBytes (Address.cpu address).physical bytes).flat = machine.flat ∧
      ∀ other, (machine.writeBytes (Address.cpu address).physical bytes).byteAt other =
        bytes.getD (other - address).toNat (machine.byteAt other) := by
  induction bytes generalizing machine address with
  | nil => exact ⟨rfl, fun _ => rfl⟩
  | cons byte bytes ih =>
    rw [writeBytes, write_cpu]
    cases bytes with
    | nil =>
      refine ⟨rfl, fun other => ?_⟩
      rw [writeBytes, byteAt_setByte, getD_cons_sub, List.getD_nil]
    | cons second bytes =>
      rw [List.length_cons, List.length_cons] at fits
      have next : (address + 1).toNat = address.toNat + 1 := by
        rw [UInt16.toNat_add]
        exact Nat.mod_eq_of_lt (show address.toNat + 1 < 0x10000 by omega)
      have step : (Address.cpu address).physical + 1 = (Address.cpu (address + 1)).physical :=
        physical_cpu_add (show address.toNat + 1 < 0x10000 by omega)
      obtain ⟨flat, written⟩ := ih (machine.setByte address byte) (address + 1)
        (by rw [next, List.length_cons]; omega)
      rw [step]
      refine ⟨flat, fun other => ?_⟩
      rw [written, byteAt_setByte, getD_cons_sub byte]
      split
      · rename_i same
        rw [toNat_sub_succ, if_pos same, List.getD_eq_getElem?_getD, List.getElem?_eq_none]
        · rfl
        · rw [List.length_cons]
          omega
      · rfl

end RemoteDebugger.Machine
