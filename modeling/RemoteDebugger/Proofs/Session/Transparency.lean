import RemoteDebugger.Proofs.Machine.Patch
import RemoteDebugger.Proofs.Session.Waiting

/-!
Transparency of the software breakpoint. A continue up to a software breakpoint that is hit leaves
the machine where the program itself would have come, instruction by instruction, without the
patch. What the program does on its way may not depend on the patched bytes: an instruction that
takes a value from under the patch sees the self-jump.
-/

set_option autoImplicit false

namespace RemoteDebugger

open Machine (Covers Patched Route OnRoute)

/-- The machine moved off an address, where a patch would stall it at once. -/
def Machine.steppedOff (machine : Machine) (address : UInt16) : Machine :=
  if machine.registers.pc = address then machine.execute else machine

theorem Machine.steppedOff_inHypervisor (machine : Machine) (address : UInt16) :
    (machine.steppedOff address).registers.inHypervisor = machine.registers.inHypervisor := by
  rw [steppedOff]
  split
  · rw [Registers.inHypervisor, execute_maph]
    rfl
  · rfl

theorem Machine.OnRoute.polled {start : Machine} {address : UInt16} {steps : Nat}
    {simulator : Simulator} (onRoute : OnRoute start address steps simulator.machine)
    (route : Route start address steps) :
    OnRoute start address steps simulator.polled.machine :=
  Simulator.elapse_induction (fun other => OnRoute start address steps other.machine)
    (fun _ passing _ _ => passing.execute route) (fun _ passing _ => passing) onRoute

namespace SoftwareBreakpoint

variable {machine : Machine} {address : UInt16}

theorem armedOn_address (user : machine.registers.inHypervisor = false) :
    (armedOn machine address.toUInt32).address = .cpu address := by
  have small : address.toUInt32 ≤ 0xFFFF := by
    rw [UInt32.le_iff_toNat_le, UInt16.toNat_toUInt32]
    exact Nat.le_of_lt_succ address.toNat_lt
  show patchAddress address.toUInt32 machine.registers.inHypervisor = _
  rw [user, patchAddress, if_neg Bool.false_ne_true, Address.ofNumber, if_pos small,
    UInt16.toUInt16_toUInt32]

theorem armedOn_saved (user : machine.registers.inHypervisor = false)
    (fits : address.toNat + 2 ≤ 0xFFFF) {other : UInt16} (inside : Covers address other) :
    (armedOn machine address.toUInt32).saved.toList.getD (other - address).toNat 0 =
      machine.byteAt other := by
  have near := Machine.covers_iff.mp inside
  have saved : (armedOn machine address.toUInt32).saved.toList.getD (other - address).toNat 0 =
      machine.read ((armedOn machine address.toUInt32).address.physical +
        UInt32.ofNat (other - address).toNat) := getD_savedOf machine _ near
  rw [saved, armedOn_address user, Machine.physical_cpu_add (by omega), Machine.read_cpu,
    ← Machine.eq_add_sub]

end SoftwareBreakpoint

/-- A stopped monitor with a program at its program counter. -/
def Simulator.loaded (sp : UInt16) (program : List UInt8) : Simulator where
  machine := ({ registers := { pc := 0x2000, sp, flags := "..E..I..".toList } } :
    Machine).writeBytes 0x2000 program

namespace Action

variable {session next : Session} {simulator after : Simulator} {machine start : Machine}
  {armed : SoftwareBreakpoint} {address pc : UInt16} {steps : Nat}

/-- Moves the processor off an address by one instruction. -/
def stepOff (address : UInt16) : Action Unit := do
  let registers ← onLink (·.readRegisters)
  if registers.pc = address then onLink (·.singleStep)

theorem prepareTarget_soft (place : UInt32) :
    prepareTarget (some place) true = (do
      stepOff place.toUInt16
      let _ ← setSoftwareBreakpoint place) := by
  rw [prepareTarget, stepOff, bind_assoc]
  simp only [if_true]
  congr 1
  funext registers
  split <;> simp

theorem stepOff_eq_ok {value : Unit} (quiet : simulator.pending = [])
    (led : (stepOff address).through session simulator = ((.ok value, next), after)) :
    next = session ∧ after =
      { simulator.polled with machine := simulator.polled.machine.steppedOff address } := by
  rw [stepOff] at led
  rw [bind_eq_ok] at led
  obtain ⟨registers, same, polled, read, led⟩ := led
  obtain ⟨rfl, rfl, shown⟩ := readRegisters_eq_ok quiet read
  have samePc : registers.pc = simulator.polled.machine.registers.pc := by rw [shown]
  rw [samePc] at led
  rw [Machine.steppedOff]
  split at led
  · rename_i here
    rw [if_pos here]
    exact singleStep_eq_ok rfl led
  · rename_i away
    rw [if_neg away]
    rw [through_pure] at led
    cases led
    exact ⟨rfl, rfl⟩

theorem stepOff_stopped {value : Unit} (quiet : simulator.pending = [])
    (stopped : simulator.running = false)
    (led : (stepOff address).through session simulator = ((.ok value, next), after)) :
    next = session ∧ after.pending = [] ∧ after.running = false ∧
      after.machine = simulator.machine.steppedOff address := by
  obtain ⟨rfl, rfl⟩ := stepOff_eq_ok quiet led
  obtain ⟨halted, unmoved⟩ := (Simulator.lasting_stopped _).polled simulator ⟨stopped, rfl⟩
  refine ⟨rfl, rfl, halted, ?_⟩
  simp only [unmoved]

theorem prepareTarget_stopped {place : UInt32} {value : Unit} (quiet : simulator.pending = [])
    (stopped : simulator.running = false)
    (led : (prepareTarget (some place) true).through session simulator =
      ((.ok value, next), after)) :
    ∃ armed, armed = .armedOn (simulator.machine.steppedOff place.toUInt16) place ∧
      next = { session with breakpoint := some armed } ∧ after.pending = [] ∧
      after.machine = armed.patch (simulator.machine.steppedOff place.toUInt16) := by
  rw [prepareTarget_soft] at led
  rw [bind_eq_ok] at led
  obtain ⟨_, same, moved, moving, led⟩ := led
  obtain ⟨rfl, quiet, halted, holds⟩ := stepOff_stopped quiet stopped moving
  rw [bind_eq_ok] at led
  obtain ⟨armed, noting, armedSimulator, arming, led⟩ := led
  rw [through_pure] at led
  cases led
  obtain ⟨armedOn, noted, drained, patched⟩ := setSoftwareBreakpoint_stopped quiet halted arming
  rw [holds] at armedOn patched
  exact ⟨armed, armedOn, noted, drained, patched⟩

theorem prepareTarget_resting {place : UInt32} (resting : simulator.Resting machine)
    (led : (prepareTarget (some place) true).through session simulator =
      ((.ok (), next), after)) :
    ∃ armed, armed = .armedOn (machine.steppedOff place.toUInt16) place ∧
      next = { session with breakpoint := some armed } ∧ after.Ready ∧
      after.machine = armed.patch (machine.steppedOff place.toUInt16) := by
  obtain ⟨armed, armedOn, noted, drained, patched⟩ :=
    prepareTarget_stopped resting.ready.quiet resting.stopped led
  rw [resting.holds] at armedOn patched
  exact ⟨armed, armedOn, noted, ⟨drained, (failOn_of_led led).trans resting.ready.working⟩, patched⟩

theorem lasting_onRoute (route : Route start address steps) :
    Simulator.Lasting fun simulator => OnRoute start address steps simulator.machine where
  polled _ := fun onRoute => Machine.OnRoute.polled onRoute route
  halted _ := id
  replied _ _ := id
  asked _ := id

theorem awaitStall_onRoute {left : Nat} {count : StallCount} (route : Route start address steps)
    (ready : simulator.Ready) (onRoute : OnRoute start address steps simulator.machine)
    (slot : session.breakpoint = some armed) (place : armed.cpuAddress = address)
    (led : (awaitStall left count).through session simulator =
      ((.ok (.softwareBreakpoint pc), next), after)) :
    pc = address ∧ next.breakpoint = none ∧ after.running = false ∧
      ∃ patched, Patched address (Machine.execute^[steps] start) patched ∧
        after.machine = armed.unpatch patched := by
  obtain ⟨noticed, onRoute, ending⟩ :=
    awaitStall_ending (lasting_onRoute route) ready.quiet onRoute slot led
  generalize emptied : next.breakpoint = held at ending
  cases ending with
  | hit inside =>
    have covered : Covers address noticed.machine.registers.pc := by
      rw [← place]
      show noticed.machine.registers.pc - armed.cpuAddress < 3
      exact of_decide_eq_true inside
    have arrived := onRoute.arrived route covered
    refine ⟨?_, rfl, rfl, _, arrived, rfl⟩
    rw [arrived.agrees.pc, route.arrives]

/-- A continue to a software breakpoint that is hit is transparent. It ends where the program comes
by its own instructions, with the patch taken out again and the processor stopped. -/
theorem continueExecution_transparent {target final : Simulator} {rounds : Nat}
    (ready : target.Ready) (stopped : target.running = false)
    (user : target.machine.registers.inHypervisor = false) (fits : address.toNat + 2 ≤ 0xFFFF)
    (route : Route (target.machine.steppedOff address) address steps)
    (hit : (continueExecution rounds (some address.toUInt32) true).through session target =
      ((.ok (.softwareBreakpoint pc), next), final)) :
    pc = address ∧ next.breakpoint = none ∧ final.running = false ∧
      (∀ physical, final.machine.read physical =
        (Machine.execute^[steps] (target.machine.steppedOff address)).read physical) ∧
      { final.machine.registers with lastOp :=
          (Machine.execute^[steps] (target.machine.steppedOff address)).registers.lastOp } =
        (Machine.execute^[steps] (target.machine.steppedOff address)).registers := by
  rw [continueExecution, command_eq_ok, runToStall] at hit
  rw [bind_eq_ok] at hit
  obtain ⟨_, armedSession, prepared, preparing, hit⟩ := hit
  have resting : (Transport.interrupted target).2.Resting target.machine :=
    ⟨⟨ready.quiet, ready.working⟩, stopped, rfl⟩
  obtain ⟨armed, armedOn, rfl, preparedReady, patched⟩ := prepareTarget_resting resting preparing
  rw [UInt16.toUInt16_toUInt32] at armedOn patched
  have userStart := (Machine.steppedOff_inHypervisor target.machine address).trans user
  have place : armed.address = .cpu address := by
    rw [armedOn, SoftwareBreakpoint.armedOn_address userStart]
  rw [through_bind_of_ok (through_setRunning preparedReady _ _),
    through_bind_of_ok (through_get _ _), through_bind_of_ok (through_enter _ _ _)] at hit
  have started : ({ prepared with running := true } : Simulator).Ready :=
    ⟨preparedReady.quiet, preparedReady.working⟩
  have onRoute : OnRoute (target.machine.steppedOff address) address steps
      ({ prepared with running := true } : Simulator).machine := by
    refine ⟨0, Nat.zero_le _, ?_⟩
    rw [patched, SoftwareBreakpoint.patch, SoftwareBreakpoint.cpuAddress, place]
    exact Patched.install _ fits
  obtain ⟨here, slot, halted, image, arrived, restored⟩ := awaitStall_onRoute route started onRoute
    rfl (congrArg Address.cpuAddress place) hit
  have kept : ∀ other, Covers address other → armed.saved.toList.getD (other - address).toNat 0 =
      (Machine.execute^[steps] (target.machine.steppedOff address)).byteAt other := by
    intro other inside
    rw [route.byteAt inside, armedOn, SoftwareBreakpoint.armedOn_saved userStart fits inside]
  obtain ⟨registers, memory⟩ := arrived.restore fits Vector.length_toList kept
  rw [restored, SoftwareBreakpoint.unpatch, place]
  exact ⟨here, slot, halted, memory, registers⟩

theorem continueExecution_transparent_push :
    ∃ next final, (continueExecution 10 (some (0x2003 : UInt16).toUInt32) true).through {}
        (.loaded 0x01FF [0xA9, 0x05, 0x48] : Simulator) =
          ((.ok (.softwareBreakpoint 0x2003), next), final) ∧
      next.breakpoint = none ∧ final.running = false ∧ final.machine.read 0x01FF = 0x05 := by
  have hit := eq_of_toOption (show ((continueExecution 10 (some (0x2003 : UInt16).toUInt32)
    true).through {} (Simulator.loaded 0x01FF [0xA9, 0x05, 0x48])).1.1.toOption =
      some (.softwareBreakpoint 0x2003) by decide +kernel)
  have route : Route ((Simulator.loaded 0x01FF [0xA9, 0x05, 0x48]).machine.steppedOff 0x2003)
      0x2003 2 := by
    decide +kernel
  obtain ⟨-, slot, halted, memory, -⟩ := continueExecution_transparent ⟨rfl, rfl⟩ rfl
    (by decide +kernel) (by decide) route hit
  refine ⟨_, _, hit, slot, halted, ?_⟩
  rw [memory]
  decide +kernel

/-- Keeping the program's own bytes and its stores off the patch is not enough. `PLA` takes the
accumulator from under a patch on the stack and finds the self-jump there. -/
theorem continueExecution_loads_patch :
    ¬ ∀ (session next : Session) (target final : Simulator) (address pc : UInt16)
      (rounds steps : Nat), target.Ready → target.running = false →
      target.machine.registers.inHypervisor = false → session.breakpoint = none →
      address.toNat + 2 ≤ 0xFFFF →
      (Machine.execute^[steps] (target.machine.steppedOff address)).registers.pc = address →
      (∀ done < steps,
        (Machine.execute^[done] (target.machine.steppedOff address)).registers.pc ≠ address ∧
        (∀ other ∈ (Machine.execute^[done] (target.machine.steppedOff address)).current.span,
          ¬ Covers address other) ∧
        ∀ other ∈ (Machine.execute^[done] (target.machine.steppedOff address)).stores,
          ¬ Covers address other) →
      (continueExecution rounds (some address.toUInt32) true).through session target =
        ((.ok (.softwareBreakpoint pc), next), final) →
      final.machine.registers.a =
        (Machine.execute^[steps] (target.machine.steppedOff address)).registers.a := by
  intro transparent
  have hit := eq_of_toOption (show ((continueExecution 10 (some (0x01F0 : UInt16).toUInt32)
    true).through {} (Simulator.loaded 0x01EF [0x68, 0x4C, 0xF0, 0x01])).1.1.toOption =
      some (.softwareBreakpoint 0x01F0) by decide +kernel)
  have same := transparent {} _ _ _ 0x01F0 0x01F0 10 2 ⟨rfl, rfl⟩ rfl (by decide +kernel) rfl
    (by decide) (by decide +kernel) (by decide +kernel) hit
  revert same
  decide +kernel

end Action

end RemoteDebugger
