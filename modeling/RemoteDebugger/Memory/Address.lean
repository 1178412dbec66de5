import RemoteDebugger.Text.Numeral

/-!
Addresses. The monitor takes twenty-eight bits; the sixteen-bit view of the processor appears at
a fixed base, where its current memory map applies.
-/

set_option autoImplicit false

namespace RemoteDebugger

/-- An address in the processor's view, or a flat one that bypasses the memory map. -/
inductive Address where
  | cpu (address : UInt16)
  | flat (address : UInt32)
  deriving DecidableEq, Repr

namespace Address

/-- Where the processor's view starts among monitor addresses. -/
def cpuBase : UInt32 := 0x07770000

/-- Where hypervisor memory starts among monitor addresses. -/
def hypervisorBase : UInt32 := 0x0FFF0000

def mask : UInt32 := 0x0FFFFFFF

def physical : Address → UInt32
  | cpu address => cpuBase ||| address.toUInt32
  | flat address => address &&& mask

/-- The low sixteen bits, as the processor sees the address. -/
def cpuAddress : Address → UInt16
  | cpu address => address
  | flat address => address.toUInt16

/-- The address so many bytes further, in the same form; each form wraps at its own top. -/
def offset : Address → UInt32 → Address
  | cpu address, distance => cpu (address + distance.toUInt16)
  | flat address, distance => flat ((address + distance) &&& mask)

def isFlat : Address → Bool
  | cpu _ => false
  | flat _ => true

/-- The address that a number means: a flat one if it does not fit in sixteen bits. -/
def ofNumber (number : UInt32) : Address :=
  if number ≤ 0xFFFF then cpu number.toUInt16 else flat number

/-- A dollar sign and four digits, or seven for a flat address. -/
def text : Address → Text
  | cpu address => "$" ++ Text.hexWord address
  | flat address => "$" ++ Text.hex 7 (address &&& mask).toNat

theorem physical_le_mask (address : Address) : address.physical.toNat ≤ mask.toNat := by
  cases address with
  | cpu address =>
    have bound : address.toNat < 2 ^ 16 := address.toNat_lt
    have : (cpuBase ||| address.toUInt32).toNat = 0x07770000 ||| address.toNat := by
      simp [cpuBase]
    have base : 0x07770000 ||| address.toNat < 2 ^ 28 :=
      Nat.or_lt_two_pow (by decide) (by omega)
    show (cpuBase ||| address.toUInt32).toNat ≤ 0x0FFFFFFF
    omega
  | flat address =>
    show (address &&& mask).toNat ≤ mask.toNat
    rw [UInt32.toNat_and]
    exact Nat.and_le_right

end Address

end RemoteDebugger
