import Mathlib.Logic.Function.Iterate
import RemoteDebugger.Proofs.Instruction.Bytes
import RemoteDebugger.Proofs.Instruction.Decoding
import RemoteDebugger.Proofs.Machine.Execution
import RemoteDebugger.Session.Breakpoint

/-!
Programs with a self-jump patched in. As long as a program keeps off the patched bytes, it runs in
the patched machine as it does in the plain one; once it reaches the patch, it stays there, and
only the last opcode changes.
-/

set_option autoImplicit false

namespace RemoteDebugger

namespace Instruction

def span (instruction : Instruction) : List UInt16 :=
  (List.range instruction.size).map fun index => instruction.address + UInt16.ofNat index

theorem mem_span (instruction : Instruction) {index : Nat} (small : index < instruction.size) :
    instruction.address + UInt16.ofNat index ∈ instruction.span :=
  List.mem_map.mpr ⟨index, List.mem_range.mpr small, rfl⟩

end Instruction

namespace Machine

theorem getD_fetched (machine : Machine) (address : UInt16) {index : Nat} (small : index < 3) :
    [machine.byteAt address, machine.byteAt (address + 1), machine.byteAt (address + 2)].getD
        index 0 = machine.byteAt (address + UInt16.ofNat index) := by
  match index, small with
  | 0, _ =>
    rw [show UInt16.ofNat 0 = 0 from rfl, UInt16.add_zero]
    rfl
  | 1, _ => rfl
  | 2, _ => rfl

theorem pc_mem_span (machine : Machine) : machine.registers.pc ∈ machine.current.span := by
  have first : machine.registers.pc + UInt16.ofNat 0 ∈ machine.current.span :=
    Instruction.mem_span machine.current (Mode.size_pos _)
  rwa [show UInt16.ofNat 0 = 0 from rfl, UInt16.add_zero] at first

/-- The next instruction neither lies in an area nor stores there nor takes a value from there. -/
structure KeepsOff (machine : Machine) (area : UInt16 → Prop) : Prop where
  fetches : ∀ address ∈ machine.current.span, ¬ area address
  stores : ∀ address ∈ machine.stores, ¬ area address
  loads : ∀ address ∈ machine.loads, ¬ area address

instance (addresses : List UInt16) (area : UInt16 → Prop) [DecidablePred area] :
    Decidable (∀ address ∈ addresses, ¬ area address) :=
  decidable_of_iff ((addresses.all fun address => !decide (area address)) = true) (by simp)

theorem keepsOff_iff {machine : Machine} {area : UInt16 → Prop} :
    machine.KeepsOff area ↔ (∀ address ∈ machine.current.span, ¬ area address) ∧
      (∀ address ∈ machine.stores, ¬ area address) ∧ ∀ address ∈ machine.loads, ¬ area address :=
  ⟨fun keeps => ⟨keeps.fetches, keeps.stores, keeps.loads⟩,
    fun ⟨fetches, stores, loads⟩ => ⟨fetches, stores, loads⟩⟩

instance (machine : Machine) (area : UInt16 → Prop) [DecidablePred area] :
    Decidable (machine.KeepsOff area) :=
  decidable_of_iff _ keepsOff_iff.symm

namespace AgreesOff

variable {area : UInt16 → Prop} {one other : Machine}

theorem current (agrees : AgreesOff area one other)
    (fetches : ∀ address ∈ one.current.span, ¬ area address) : other.current = one.current := by
  rw [Machine.current, Machine.current, agrees.pc]
  apply Instruction.decode_congr
  intro index small
  have short : index < 3 := Nat.lt_of_lt_of_le small (Mode.size_le_three _)
  rw [getD_fetched _ _ short, getD_fetched _ _ short]
  exact agrees.bytes _ (fetches _ (Instruction.mem_span one.current small))

theorem execute (agrees : AgreesOff area one other) (keepsOff : one.KeepsOff area) :
    AgreesOff area one.execute other.execute := by
  rw [execute_eq, execute_eq, agrees.current keepsOff.fetches]
  exact (agrees.noting _).undergo _ keepsOff.loads

theorem stores (agrees : AgreesOff area one other) (keepsOff : one.KeepsOff area) :
    other.stores = one.stores := by
  rw [Machine.stores, Machine.stores, agrees.current keepsOff.fetches, agrees.sp]

end AgreesOff

/-- A byte is one of the three that a patch at an address replaces. -/
def Covers (address other : UInt16) : Prop := other - address < 3

instance (address : UInt16) : DecidablePred (Covers address) :=
  fun _ => inferInstanceAs (Decidable (_ < _))

theorem covers_iff {address other : UInt16} :
    Covers address other ↔ (other - address).toNat < 3 :=
  UInt16.lt_iff_toNat_lt

theorem eq_add_sub (address other : UInt16) :
    other = address + UInt16.ofNat (other - address).toNat := by
  rw [UInt16.ofNat_toNat, UInt16.add_comm, UInt16.sub_add_cancel]

/-- The second machine is the first one with a self-jump patched in, the last opcode aside. -/
structure Patched (address : UInt16) (plain patched : Machine) : Prop where
  agrees : AgreesOff (Covers address) plain patched
  wedge : ∀ other, Covers address other → patched.byteAt other =
    (SoftwareBreakpoint.wedge address).getD (other - address).toNat 0

namespace Patched

variable {address : UInt16} {plain patched : Machine}

theorem install (machine : Machine) (fits : address.toNat + 2 ≤ 0xFFFF) :
    Patched address machine (machine.writeBytes (Address.cpu address).physical
      (SoftwareBreakpoint.wedge address)) := by
  have length : (SoftwareBreakpoint.wedge address).length = 3 := rfl
  obtain ⟨flat, bytes⟩ := writeBytes_cpu machine address (SoftwareBreakpoint.wedge address)
    (by omega)
  refine ⟨⟨?_, fun other outside => ?_, flat⟩, fun other inside => ?_⟩
  · rw [writeBytes_registers]
    rfl
  · rw [covers_iff] at outside
    rw [bytes, List.getD_eq_getElem?_getD, List.getElem?_eq_none (by omega)]
    rfl
  · rw [covers_iff] at inside
    rw [bytes, List.getD_eq_getElem?_getD, List.getD_eq_getElem?_getD,
      List.getElem?_eq_getElem (by omega)]
    rfl

theorem execute (same : Patched address plain patched)
    (keepsOff : plain.KeepsOff (Covers address)) :
    Patched address plain.execute patched.execute := by
  refine ⟨same.agrees.execute keepsOff, fun other inside => ?_⟩
  rw [byteAt_execute, same.wedge other inside]
  rw [same.agrees.stores keepsOff]
  exact fun stored => keepsOff.stores other stored inside

private theorem effect_wedge (address : UInt16) :
    (Instruction.decode (SoftwareBreakpoint.wedge address) address).effect = .jump address := by
  have jumps : (Instruction.decode (SoftwareBreakpoint.wedge address) address).effect =
      .jump (wordOf (lowByte address) (highByte address)) := rfl
  rw [jumps, wordOf_lowByte_highByte]

private theorem current_wedge (same : Patched address plain patched)
    (here : plain.registers.pc = address) :
    patched.current = Instruction.decode (SoftwareBreakpoint.wedge address) address := by
  rw [current, same.agrees.pc, here]
  apply Instruction.decode_congr
  intro index small
  have short : index < 3 := Nat.lt_of_lt_of_le small (Mode.size_le_three _)
  have distance : (address + UInt16.ofNat index - address).toNat = index := by
    rw [UInt16.add_comm, UInt16.add_sub_cancel, UInt16.toNat_ofNat']
    omega
  rw [getD_fetched _ _ short, same.wedge _ (covers_iff.mpr (by omega)), distance]

theorem stall (same : Patched address plain patched) (here : plain.registers.pc = address) :
    Patched address plain patched.execute := by
  rw [execute_eq, same.current_wedge here, effect_wedge]
  refine ⟨⟨?_, same.agrees.bytes, same.agrees.flat⟩, same.wedge⟩
  show { patched.registers.noting plain.registers.lastOp with pc := address } = _
  rw [same.agrees.registers, ← here]

theorem restore (same : Patched address plain patched) (fits : address.toNat + 2 ≤ 0xFFFF)
    {saved : List UInt8} (length : saved.length = 3)
    (kept : ∀ other, Covers address other →
      saved.getD (other - address).toNat 0 = plain.byteAt other) :
    (patched.writeBytes (Address.cpu address).physical saved).registers.noting
        plain.registers.lastOp = plain.registers ∧
      ∀ physical, (patched.writeBytes (Address.cpu address).physical saved).read physical =
        plain.read physical := by
  obtain ⟨flat, bytes⟩ := writeBytes_cpu patched address saved (by omega)
  constructor
  · rw [writeBytes_registers]
    exact same.agrees.registers
  · apply read_eq
    · intro other
      rw [bytes]
      by_cases inside : Covers address other
      · rw [← kept other inside, List.getD_eq_getElem?_getD, List.getD_eq_getElem?_getD,
          List.getElem?_eq_getElem (by rw [length]; exact covers_iff.mp inside)]
        rfl
      · have far : saved.length ≤ (other - address).toNat := by
          rw [length]
          exact Nat.le_of_not_lt fun near => inside (covers_iff.mpr near)
        rw [List.getD_eq_getElem?_getD, List.getElem?_eq_none far]
        exact same.agrees.bytes other inside
    · exact flat.trans same.agrees.flat

end Patched

/-- A program goes from a machine to an address in so many instructions, which all keep off the
three bytes at the address. -/
structure Route (start : Machine) (address : UInt16) (steps : Nat) : Prop where
  arrives : (execute^[steps] start).registers.pc = address
  keepsOff : ∀ done < steps, (execute^[done] start).KeepsOff (Covers address)

theorem route_iff {start : Machine} {address : UInt16} {steps : Nat} :
    Route start address steps ↔ (execute^[steps] start).registers.pc = address ∧
      ∀ done < steps, (execute^[done] start).KeepsOff (Covers address) :=
  ⟨fun route => ⟨route.arrives, route.keepsOff⟩, fun ⟨arrives, keepsOff⟩ => ⟨arrives, keepsOff⟩⟩

instance (start : Machine) (address : UInt16) (steps : Nat) :
    Decidable (Route start address steps) :=
  decidable_of_iff _ route_iff.symm

/-- The patched image of a state that the program passes on its route. -/
def OnRoute (start : Machine) (address : UInt16) (steps : Nat) (machine : Machine) : Prop :=
  ∃ done ≤ steps, Patched address (execute^[done] start) machine

section Routes

variable {start machine : Machine} {address : UInt16} {steps : Nat}

theorem OnRoute.execute (onRoute : OnRoute start address steps machine)
    (route : Route start address steps) : OnRoute start address steps machine.execute := by
  obtain ⟨done, before, same⟩ := onRoute
  rcases Nat.lt_or_eq_of_le before with further | rfl
  · refine ⟨done + 1, further, ?_⟩
    rw [Function.iterate_succ_apply']
    exact same.execute (route.keepsOff done further)
  · exact ⟨done, Nat.le_refl _, same.stall route.arrives⟩

theorem OnRoute.arrived (onRoute : OnRoute start address steps machine)
    (route : Route start address steps) (inside : Covers address machine.registers.pc) :
    Patched address (Machine.execute^[steps] start) machine := by
  obtain ⟨done, before, same⟩ := onRoute
  rcases Nat.lt_or_eq_of_le before with further | rfl
  · rw [same.agrees.pc] at inside
    exact absurd inside ((route.keepsOff done further).fetches _ (pc_mem_span _))
  · exact same

theorem Route.byteAt (route : Route start address steps) {other : UInt16}
    (inside : Covers address other) :
    (execute^[steps] start).byteAt other = start.byteAt other := by
  have along : ∀ done ≤ steps, (execute^[done] start).byteAt other = start.byteAt other := by
    intro done before
    induction done with
    | zero => rfl
    | succ done ih =>
      rw [Function.iterate_succ_apply', byteAt_execute, ih (by omega)]
      exact fun stored => (route.keepsOff done before).stores other stored inside
  exact along steps (Nat.le_refl _)

end Routes

end Machine

end RemoteDebugger
