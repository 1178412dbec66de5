import RemoteDebugger.Proofs.Machine.Physical
import RemoteDebugger.Proofs.Session.Breakpoint

/-!
The bytes under a software breakpoint. A patch replaces three bytes, wherever they are: in the view,
in flat memory, or across the top of the view. Putting back what was saved undoes the patch, and no
other byte is touched by either.
-/

set_option autoImplicit false

namespace RemoteDebugger.SoftwareBreakpoint

variable {breakpoint : SoftwareBreakpoint} {machine : Machine} {index : Nat} {other : UInt32}

/-- The monitor address of one of the patched bytes. -/
def place (breakpoint : SoftwareBreakpoint) (index : Nat) : UInt32 :=
  breakpoint.address.physical + UInt32.ofNat index

/-- A monitor address shows one of the three patched bytes. -/
def Touches (breakpoint : SoftwareBreakpoint) (physical : UInt32) : Prop :=
  ∃ index < 3, Machine.cell physical = Machine.cell (breakpoint.place index)

instance (breakpoint : SoftwareBreakpoint) : DecidablePred breakpoint.Touches :=
  fun _ => inferInstanceAs (Decidable (∃ _ < _, _ = _))

/-- The self-jump of a breakpoint is in memory. -/
def InPlace (breakpoint : SoftwareBreakpoint) (machine : Machine) : Prop :=
  ∀ index < 3, machine.read (breakpoint.place index) =
    (wedge breakpoint.cpuAddress).getD index 0

/-- Two machines have the same bytes under a breakpoint. -/
def SameUnder (breakpoint : SoftwareBreakpoint) (one other : Machine) : Prop :=
  ∀ index < 3, one.read (breakpoint.place index) = other.read (breakpoint.place index)

private theorem apart_of_not_touches (apart : ¬ breakpoint.Touches other) :
    ∀ index < 3, Machine.cell other ≠ Machine.cell (breakpoint.place index) :=
  fun index small same => apart ⟨index, small, same⟩

theorem read_patch (small : index < 3) : (breakpoint.patch machine).read (breakpoint.place index) =
    (wedge breakpoint.cpuAddress).getD index 0 := by
  have few : (wedge breakpoint.cpuAddress).length ≤ 0x10000 := Nat.le_of_ble_eq_true rfl
  exact Machine.read_writeBytes_add machine _ small few

theorem read_patch_of_apart (apart : ¬ breakpoint.Touches other) :
    (breakpoint.patch machine).read other = machine.read other :=
  Machine.read_writeBytes_of_apart machine (apart_of_not_touches apart)

theorem read_unpatch (small : index < 3) :
    (breakpoint.unpatch machine).read (breakpoint.place index) =
      breakpoint.saved.toList.getD index 0 := by
  have length := breakpoint.length_saved
  exact Machine.read_writeBytes_add machine _ (by omega) (by omega)

theorem read_unpatch_of_apart (apart : ¬ breakpoint.Touches other) :
    (breakpoint.unpatch machine).read other = machine.read other := by
  apply Machine.read_writeBytes_of_apart machine
  rw [length_saved]
  exact apart_of_not_touches apart

theorem saved_armedOn (machine : Machine) (address : UInt32) (small : index < 3) :
    (armedOn machine address).saved.toList.getD index 0 =
      machine.read ((armedOn machine address).place index) :=
  getD_savedOf machine _ small

theorem read_unpatch_patch (machine : Machine) (address : UInt32) (other : UInt32) :
    ((armedOn machine address).unpatch ((armedOn machine address).patch machine)).read other =
      machine.read other := by
  have length := (armedOn machine address).length_saved
  have equally : (wedge (armedOn machine address).cpuAddress).length =
      (armedOn machine address).saved.toList.length := length.symm
  refine (Machine.read_writeBytes_writeBytes machine equally (by omega) other).trans
    (Machine.read_writeBytes_self machine (by omega) ?_ other)
  rw [length]
  exact fun index small => saved_armedOn machine address small

theorem patch_noting (machine : Machine) (opcode : UInt8) (address : UInt32) :
    (armedOn (machine.noting opcode) address).patch (machine.noting opcode) =
      ((armedOn machine address).patch machine).noting opcode :=
  Machine.writeBytes_noting machine opcode _ _

theorem patch_registers (breakpoint : SoftwareBreakpoint) (machine : Machine) :
    (breakpoint.patch machine).registers = machine.registers :=
  Machine.writeBytes_registers machine _ _

end RemoteDebugger.SoftwareBreakpoint
