import RemoteDebugger.Memory.Address

/-!
Address arithmetic. Each form of an address has a place in a stretch of monitor addresses: the view
of the processor, or all that the monitor has. Moving an address wraps within its stretch, while the
monitor counts on past it, so the two ways of counting agree only below the top.
-/

set_option autoImplicit false

namespace RemoteDebugger.Address

/-- Where the stretch of the form starts among monitor addresses. -/
def base : Address → Nat
  | cpu _ => 0x07770000
  | flat _ => 0

/-- How many addresses the form has. -/
def span : Address → Nat
  | cpu _ => 0x10000
  | flat _ => 0x10000000

/-- The distance of the address from the start of its stretch. -/
def place : Address → Nat
  | cpu address => address.toNat
  | flat address => address.toNat % 0x10000000

/-- So many bytes from the address on do not run past the top of its form. -/
def Fits (address : Address) (length : Nat) : Prop := address.place + length ≤ address.span

instance (address : Address) (length : Nat) : Decidable (address.Fits length) :=
  inferInstanceAs (Decidable (_ ≤ _))

theorem Fits.mono {address : Address} {short long : Nat} (fits : address.Fits long)
    (less : short ≤ long) : address.Fits short :=
  Nat.le_trans (Nat.add_le_add_left less _) fits

theorem place_lt_span (address : Address) : address.place < address.span := by
  cases address with
  | cpu address => exact address.toNat_lt
  | flat address => exact Nat.mod_lt _ (by decide)

theorem base_add_span_bounds (address : Address) :
    0x07780000 ≤ address.base + address.span ∧ address.base + address.span ≤ 0x10000000 := by
  cases address <;> simp only [base, span] <;> omega

private theorem toNat_and_mask (number : UInt32) :
    (number &&& mask).toNat = number.toNat % 0x10000000 := by
  rw [UInt32.toNat_and]
  exact Nat.and_two_pow_sub_one_eq_mod _ 28

private theorem or_eq_add {number : Nat} (small : number < 0x10000) :
    0x07770000 ||| number = 0x07770000 + number := by
  have shifted := Nat.shiftLeft_add_eq_or_of_lt (show number < 2 ^ 16 from small) 0x777
  rw [Nat.shiftLeft_eq] at shifted
  exact shifted.symm

theorem toNat_physical (address : Address) :
    address.physical.toNat = address.base + address.place := by
  cases address with
  | cpu address =>
    show (cpuBase ||| address.toUInt32).toNat = _
    rw [UInt32.toNat_or, UInt16.toNat_toUInt32]
    exact or_eq_add address.toNat_lt
  | flat address =>
    show (address &&& mask).toNat = 0 + address.toNat % 0x10000000
    rw [toNat_and_mask, Nat.zero_add]

@[simp] theorem base_offset (address : Address) (distance : UInt32) :
    (address.offset distance).base = address.base := by
  cases address <;> rfl

@[simp] theorem span_offset (address : Address) (distance : UInt32) :
    (address.offset distance).span = address.span := by
  cases address <;> rfl

theorem place_offset (address : Address) (distance : Nat) :
    (address.offset (UInt32.ofNat distance)).place =
      (address.place + distance) % address.span := by
  cases address with
  | cpu address =>
    show (address + (UInt32.ofNat distance).toUInt16).toNat = (address.toNat + distance) % 0x10000
    rw [UInt16.toNat_add, UInt32.toNat_toUInt16, UInt32.toNat_ofNat']
    omega
  | flat address =>
    show ((address + UInt32.ofNat distance) &&& mask).toNat % 0x10000000 =
      (address.toNat % 0x10000000 + distance) % 0x10000000
    rw [toNat_and_mask, UInt32.toNat_add, UInt32.toNat_ofNat']
    omega

theorem Fits.offset {address : Address} {distance length : Nat}
    (fits : address.Fits (distance + length + 1)) :
    (address.offset (UInt32.ofNat distance)).Fits (length + 1) := by
  have below : address.place + (distance + length + 1) ≤ address.span := fits
  show (address.offset (UInt32.ofNat distance)).place + (length + 1) ≤
    (address.offset (UInt32.ofNat distance)).span
  rw [place_offset, span_offset, Nat.mod_eq_of_lt (by omega)]
  omega

theorem offset_offset (address : Address) (one other : Nat) :
    (address.offset (UInt32.ofNat one)).offset (UInt32.ofNat other) =
      address.offset (UInt32.ofNat (one + other)) := by
  cases address with
  | cpu address =>
    show cpu _ = cpu _
    rw [cpu.injEq, ← UInt16.toNat_inj]
    simp only [UInt16.toNat_add, UInt32.toNat_toUInt16, UInt32.toNat_ofNat']
    omega
  | flat address =>
    show flat _ = flat _
    rw [flat.injEq, ← UInt32.toNat_inj]
    simp only [toNat_and_mask, UInt32.toNat_add, UInt32.toNat_ofNat']
    omega

theorem cpuAddress_offset (address : Address) (distance : Nat) :
    (address.offset (UInt32.ofNat distance)).cpuAddress =
      address.cpuAddress + UInt16.ofNat distance := by
  cases address with
  | cpu address =>
    show address + (UInt32.ofNat distance).toUInt16 = address + UInt16.ofNat distance
    rw [← UInt16.toNat_inj]
    simp only [UInt16.toNat_add, UInt32.toNat_toUInt16, UInt32.toNat_ofNat', UInt16.toNat_ofNat']
    omega
  | flat address =>
    show ((address + UInt32.ofNat distance) &&& mask).toUInt16 =
      address.toUInt16 + UInt16.ofNat distance
    rw [← UInt16.toNat_inj]
    simp only [toNat_and_mask, UInt16.toNat_add, UInt32.toNat_toUInt16, UInt32.toNat_add,
      UInt32.toNat_ofNat', UInt16.toNat_ofNat']
    omega

theorem physical_offset {address : Address} {distance : Nat} (fits : address.Fits (distance + 1)) :
    (address.offset (UInt32.ofNat distance)).physical =
      address.physical + UInt32.ofNat distance := by
  have top := address.base_add_span_bounds.2
  have below : address.place + (distance + 1) ≤ address.span := fits
  rw [← UInt32.toNat_inj, UInt32.toNat_add, UInt32.toNat_ofNat', toNat_physical, toNat_physical,
    base_offset, place_offset, Nat.mod_eq_of_lt (by omega), Nat.mod_eq_of_lt (by omega)]
  omega

theorem physical_offset_lt {address : Address} {one other : Nat} (fits : address.Fits (other + 1))
    (less : one < other) :
    (address.offset (UInt32.ofNat one)).physical < (address.offset (UInt32.ofNat other)).physical := by
  have below : address.place + (other + 1) ≤ address.span := fits
  rw [UInt32.lt_iff_toNat_lt, toNat_physical, toNat_physical, base_offset, base_offset, place_offset,
    place_offset, Nat.mod_eq_of_lt (by omega), Nat.mod_eq_of_lt (by omega)]
  omega

theorem physical_offset_zero (address : Address) :
    (address.offset (UInt32.ofNat 0)).physical = address.physical := by
  have fits : address.Fits (0 + 1) := by
    show address.place + (0 + 1) ≤ address.span
    have inside := address.place_lt_span
    omega
  rw [physical_offset fits]
  exact UInt32.add_zero _

end RemoteDebugger.Address
