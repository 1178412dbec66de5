import Mathlib.Logic.Function.Iterate
import Mathlib.Tactic.Push
import RemoteDebugger.Proofs.Machine.Execution

/-!
Memory as the monitor addresses it. Several monitor addresses show one byte of the view, and all
others a flat byte of their own. Bytes written one after another stand at their addresses, whatever
the first one is, and every byte that none of them shows is kept.
-/

set_option autoImplicit false

namespace RemoteDebugger.Machine

/-- The byte that a monitor address shows: one of the view, or a flat one. -/
def cell (physical : UInt32) : UInt16 ⊕ UInt32 :=
  if isView physical then .inl physical.toUInt16 else .inr physical

def readCell (machine : Machine) : UInt16 ⊕ UInt32 → UInt8
  | .inl address => machine.byteAt address
  | .inr physical => machine.flat.read 32 physical.toNat

theorem read_eq_readCell (machine : Machine) (physical : UInt32) :
    machine.read physical = machine.readCell (cell physical) := by
  rw [read, cell]
  split <;> rfl

theorem read_of_cell {physical other : UInt32} (same : cell physical = cell other)
    (machine : Machine) : machine.read physical = machine.read other := by
  rw [read_eq_readCell, read_eq_readCell, same]

theorem read_write (machine : Machine) (written physical : UInt32) (value : UInt8) :
    (machine.write written value).read physical =
      if cell physical = cell written then value else machine.read physical := by
  rw [read_eq_readCell, read_eq_readCell, write]
  by_cases shown : isView written
  · rw [if_pos shown, show cell written = .inl written.toUInt16 from if_pos shown]
    cases cell physical with
    | inl address => simp only [readCell, byteAt_setByte, Sum.inl.injEq]
    | inr other => simp only [readCell, reduceCtorEq, if_false, setByte]
  · rw [if_neg shown, show cell written = .inr written from if_neg shown]
    cases cell physical with
    | inl address => simp only [readCell, reduceCtorEq, if_false, byteAt]
    | inr other =>
      simp only [readCell, Sum.inr.injEq]
      rw [Cells.read_write_of_lt _ _ written.toNat_lt other.toNat_lt]
      simp only [UInt32.toNat_inj]

theorem isView_eq_false {physical : UInt32} (past : 0x07780000 ≤ physical.toNat) :
    isView physical = false := by
  have large : ¬ physical < 0x10000 := by
    rw [UInt32.lt_iff_toNat_lt]
    show ¬ physical.toNat < 0x10000
    omega
  have outside : physical >>> 16 ≠ 0x777 := by
    intro same
    have shifted := congrArg UInt32.toNat same
    rw [UInt32.toNat_shiftRight] at shifted
    change physical.toNat >>> 16 = 0x777 at shifted
    rw [Nat.shiftRight_eq_div_pow] at shifted
    omega
  rw [isView, decide_eq_false large, beq_eq_false_iff_ne.mpr outside, Bool.or_self]

theorem cell_add_inj {physical : UInt32} {one other : Nat} (oneSmall : one < 0x10000)
    (otherSmall : other < 0x10000)
    (same : cell (physical + UInt32.ofNat one) = cell (physical + UInt32.ofNat other)) :
    one = other := by
  have low : (physical + UInt32.ofNat one).toUInt16 = (physical + UInt32.ofNat other).toUInt16 := by
    rw [cell, cell] at same
    split at same <;> split at same
    · exact Sum.inl.inj same
    · exact absurd same (by simp)
    · exact absurd same (by simp)
    · rw [Sum.inr.inj same]
  have equal := congrArg UInt16.toNat low
  simp only [UInt32.toNat_toUInt16, UInt32.toNat_add, UInt32.toNat_ofNat'] at equal
  omega

private theorem add_one_add (physical : UInt32) (index : Nat) :
    physical + 1 + UInt32.ofNat index = physical + UInt32.ofNat (index + 1) := by
  rw [UInt32.add_assoc, UInt32.add_comm 1, UInt32.ofNat_add]
  rfl

private theorem add_zero (physical : UInt32) : physical + UInt32.ofNat 0 = physical :=
  UInt32.add_zero physical

theorem read_writeBytes_of_apart (machine : Machine) {physical other : UInt32} {bytes : List UInt8}
    (apart : ∀ index < bytes.length, cell other ≠ cell (physical + UInt32.ofNat index)) :
    (machine.writeBytes physical bytes).read other = machine.read other := by
  induction bytes generalizing machine physical with
  | nil => rfl
  | cons byte bytes ih =>
    have here := apart 0 (Nat.zero_lt_succ _)
    rw [add_zero] at here
    rw [writeBytes, ih, read_write, if_neg here]
    intro index small
    rw [add_one_add]
    exact apart (index + 1) (Nat.succ_lt_succ small)

/-- No two of so many monitor addresses, counted on from the first one, show the same byte. -/
def Unaliased (physical : UInt32) (length : Nat) : Prop :=
  ∀ one < length, ∀ other < length,
    cell (physical + UInt32.ofNat one) = cell (physical + UInt32.ofNat other) → one = other

theorem unaliased_of_le (physical : UInt32) {length : Nat} (few : length ≤ 0x10000) :
    Unaliased physical length := by
  intro one oneSmall other otherSmall same
  exact cell_add_inj (by omega) (by omega) same

theorem Unaliased.succ {physical : UInt32} {length : Nat}
    (unaliased : Unaliased physical (length + 1)) : Unaliased (physical + 1) length := by
  intro one oneSmall other otherSmall same
  rw [add_one_add, add_one_add] at same
  have equal := unaliased (one + 1) (by omega) (other + 1) (by omega) same
  omega

theorem read_writeBytes_of_unaliased (machine : Machine) {physical : UInt32} {bytes : List UInt8}
    (unaliased : Unaliased physical bytes.length) {index : Nat} (small : index < bytes.length) :
    (machine.writeBytes physical bytes).read (physical + UInt32.ofNat index) =
      bytes.getD index 0 := by
  induction bytes generalizing machine physical index with
  | nil => exact absurd small (Nat.not_lt_zero _)
  | cons byte bytes ih =>
    rw [List.length_cons] at small unaliased
    rw [writeBytes]
    cases index with
    | zero =>
      rw [add_zero, read_writeBytes_of_apart, read_write, if_pos rfl, List.getD_cons_zero]
      intro index below same
      rw [add_one_add] at same
      have zero : 0 = index + 1 :=
        unaliased 0 (by omega) (index + 1) (by omega) (by rw [add_zero]; exact same)
      exact absurd zero.symm (Nat.succ_ne_zero index)
    | succ index => rw [← add_one_add, ih _ unaliased.succ (by omega), List.getD_cons_succ]

theorem read_writeBytes_add (machine : Machine) (physical : UInt32) {bytes : List UInt8}
    {index : Nat} (small : index < bytes.length) (few : bytes.length ≤ 0x10000) :
    (machine.writeBytes physical bytes).read (physical + UInt32.ofNat index) =
      bytes.getD index 0 :=
  read_writeBytes_of_unaliased machine (unaliased_of_le physical few) small

theorem writeBytes_append (machine : Machine) (physical : UInt32) (first second : List UInt8) :
    machine.writeBytes physical (first ++ second) =
      (machine.writeBytes physical first).writeBytes (physical + UInt32.ofNat first.length)
        second := by
  induction first generalizing machine physical with
  | nil =>
    rw [List.length_nil, add_zero]
    rfl
  | cons byte first ih =>
    rw [List.cons_append, writeBytes, ih, writeBytes, List.length_cons, add_one_add]

theorem writeBytes_take_drop (machine : Machine) (physical : UInt32) (size : Nat)
    (bytes : List UInt8) :
    machine.writeBytes physical bytes =
      (machine.writeBytes physical (bytes.take size)).writeBytes (physical + UInt32.ofNat size)
        (bytes.drop size) := by
  rcases Nat.le_total bytes.length size with short | long
  · rw [List.drop_of_length_le short, List.take_of_length_le short]
    rfl
  · have length : (bytes.take size).length = size := List.length_take_of_le long
    have joined := writeBytes_append machine physical (bytes.take size) (bytes.drop size)
    rwa [List.take_append_drop, length] at joined

theorem read_writeBytes_self (machine : Machine) {physical : UInt32} {bytes : List UInt8}
    (few : bytes.length ≤ 0x10000)
    (stand : ∀ index < bytes.length,
      bytes.getD index 0 = machine.read (physical + UInt32.ofNat index)) (other : UInt32) :
    (machine.writeBytes physical bytes).read other = machine.read other := by
  by_cases apart : ∀ index < bytes.length, cell other ≠ cell (physical + UInt32.ofNat index)
  · exact read_writeBytes_of_apart machine apart
  · push Not at apart
    obtain ⟨index, small, same⟩ := apart
    rw [read_of_cell same, read_of_cell same, read_writeBytes_add _ _ small few, stand index small]

theorem read_writeBytes_writeBytes (machine : Machine) {physical : UInt32}
    {first second : List UInt8} (length : first.length = second.length)
    (few : second.length ≤ 0x10000) (other : UInt32) :
    ((machine.writeBytes physical first).writeBytes physical second).read other =
      (machine.writeBytes physical second).read other := by
  by_cases apart : ∀ index < second.length, cell other ≠ cell (physical + UInt32.ofNat index)
  · rw [read_writeBytes_of_apart _ apart, read_writeBytes_of_apart _ apart,
      read_writeBytes_of_apart]
    rwa [length]
  · push Not at apart
    obtain ⟨index, small, same⟩ := apart
    rw [read_of_cell same, read_of_cell same, read_writeBytes_add _ _ small few,
      read_writeBytes_add _ _ small few]

theorem read_execute {machine : Machine} {physical : UInt32}
    (apart : ∀ stored ∈ machine.stores, cell physical ≠ .inl stored) :
    machine.execute.read physical = machine.read physical := by
  rw [read_eq_readCell, read_eq_readCell]
  cases shown : cell physical with
  | inl address =>
    have kept : address ∉ machine.stores := fun stored => apart address stored shown
    exact byteAt_execute kept
  | inr other => exact congrArg (Cells.read 32 · other.toNat) (execute_flat machine)

/-- None of the next so many instructions stores in the byte that a monitor address shows. -/
def Spares (machine : Machine) (steps : Nat) (physical : UInt32) : Prop :=
  ∀ done < steps, ∀ stored ∈ (execute^[done] machine).stores, cell physical ≠ .inl stored

instance (machine : Machine) (steps : Nat) (physical : UInt32) :
    Decidable (machine.Spares steps physical) :=
  inferInstanceAs (Decidable (∀ done < steps, ∀ stored ∈ _, _ ≠ _))

theorem Spares.read {machine : Machine} {steps : Nat} {physical : UInt32}
    (spares : machine.Spares steps physical) :
    (execute^[steps] machine).read physical = machine.read physical := by
  induction steps with
  | zero => rfl
  | succ steps ih =>
    rw [Function.iterate_succ_apply', read_execute (spares steps (Nat.lt_succ_self _))]
    exact ih fun done before => spares done (Nat.lt_succ_of_lt before)

theorem writeBytes_noting (machine : Machine) (opcode : UInt8) (physical : UInt32)
    (bytes : List UInt8) : (machine.noting opcode).writeBytes physical bytes =
      (machine.writeBytes physical bytes).noting opcode := by
  induction bytes generalizing machine physical with
  | nil => rfl
  | cons byte bytes ih =>
    have first : (machine.noting opcode).write physical byte =
        (machine.write physical byte).noting opcode := by
      rw [write, write]
      split <;> rfl
    rw [writeBytes, first, ih, writeBytes]

section Stall

variable {machine : Machine}

theorem execute_stall (stall : machine.current.effect = .jump machine.registers.pc) :
    machine.execute = machine.noting machine.current.opcode := by
  rw [execute_eq, stall]
  rfl

theorem iterate_stall (stall : machine.current.effect = .jump machine.registers.pc) (steps : Nat) :
    ∃ opcode, execute^[steps] machine = machine.noting opcode := by
  induction steps with
  | zero => exact ⟨machine.registers.lastOp, rfl⟩
  | succ steps ih =>
    obtain ⟨opcode, same⟩ := ih
    have again : (machine.noting opcode).current.effect =
        .jump (machine.noting opcode).registers.pc := stall
    rw [Function.iterate_succ_apply', same, execute_stall again]
    exact ⟨machine.current.opcode, rfl⟩

theorem spares_of_stall (stall : machine.current.effect = .jump machine.registers.pc)
    (steps : Nat) (physical : UInt32) : machine.Spares steps physical := by
  intro done _ stored member
  obtain ⟨opcode, same⟩ := iterate_stall stall done
  have none : (machine.noting opcode).stores = [] := by
    show machine.current.effect.stores machine.registers.sp = []
    rw [stall]
    rfl
  rw [same, none] at member
  exact absurd member List.not_mem_nil

end Stall

end RemoteDebugger.Machine
