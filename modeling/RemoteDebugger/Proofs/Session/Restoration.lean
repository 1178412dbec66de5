import RemoteDebugger.Proofs.Session.Footprint

/-!
Arming and clearing around a change of the target. The address form of a breakpoint is chosen once,
when it is armed, and is kept with the saved bytes. So clearing finds the patched bytes again, in
the view, in flat memory or in hypervisor memory, whatever the memory map has become meanwhile.
-/

set_option autoImplicit false

namespace RemoteDebugger

/-- A machine in hypervisor mode with a program in hypervisor memory. -/
def Machine.supervising : Machine :=
  ({ registers := { pc := 0x8000, maph := Registers.hypervisorMap, flags := "..E..I..".toList } } :
    Machine).writeBytes 0x0FFF8100 [0xA9, 0x02, 0x60]

/-- Leaves hypervisor mode and writes to the view, at the address that the breakpoint has there. -/
def Simulator.leaveHypervisor (simulator : Simulator) : Simulator :=
  let registers := { simulator.machine.registers with maph := 0 }
  { simulator with machine := ({ simulator.machine with registers } : Machine).write 0x8100 0xE8 }

namespace Action

variable {session holding next : Session} {target patched changed final : Simulator}
  {address : UInt32} {armed : SoftwareBreakpoint} {removed : Option SoftwareBreakpoint}

/-- Arming patches three bytes and nothing else. Clearing afterwards puts back the three bytes that
were there before, at the place that was chosen when the breakpoint was armed. Between the two the
target may have become any other: its memory map may have changed, and all that it did outside the
three bytes is kept. -/
theorem clearing_undoes_arming (quiet : target.pending = []) (stopped : target.running = false)
    (arming : (setSoftwareBreakpoint address).through session target =
      ((.ok armed, holding), patched)) (drained : changed.pending = [])
    (clearing : clearSoftwareBreakpoint.through holding changed = ((.ok removed, next), final)) :
    armed.address = SoftwareBreakpoint.patchAddress address
        target.machine.registers.inHypervisor ∧
      holding = { session with breakpoint := some armed } ∧
      patched.machine = armed.patch target.machine ∧
      removed = some armed ∧ next = { session with breakpoint := none } ∧
      armed.SameUnder final.machine target.machine ∧
      (∀ physical, ¬ armed.Touches physical →
        final.machine.read physical = changed.machine.read physical) ∧
      final.machine.registers = changed.machine.registers := by
  obtain ⟨armedOn, rfl, -, image⟩ := setSoftwareBreakpoint_stopped quiet stopped arming
  obtain ⟨same, rfl, rfl⟩ := clearSoftwareBreakpoint_eq_ok drained (by exact rfl) clearing
  refine ⟨by rw [armedOn]; rfl, rfl, image, same, rfl, ?_, ?_, ?_⟩
  · intro index small
    have saved := SoftwareBreakpoint.saved_armedOn target.machine address small
    rw [← armedOn] at saved
    exact (SoftwareBreakpoint.read_unpatch small).trans saved
  · exact fun physical apart => SoftwareBreakpoint.read_unpatch_of_apart apart
  · exact Machine.writeBytes_registers _ _ _

theorem clearing_undoes_arming_hypervisor :
    ∃ armed holding next patched final,
      (setSoftwareBreakpoint 0x8100).through {} ({ machine := .supervising } : Simulator) =
        ((.ok armed, holding), patched) ∧
      clearSoftwareBreakpoint.through holding patched.leaveHypervisor =
        ((.ok (some armed), next), final) ∧
      armed.address = .flat 0x0FFF8100 ∧ next.breakpoint = none ∧
      final.machine.read 0x0FFF8100 = 0xA9 ∧ final.machine.read 0x8100 = 0xE8 := by
  have arming := eq_of_toOption (show ((setSoftwareBreakpoint 0x8100).through {}
    ({ machine := .supervising } : Simulator)).1.1.toOption =
      some ⟨.flat 0x0FFF8100, #v[0xA9, 0x02, 0x60]⟩ by decide +kernel)
  obtain ⟨-, -, drained, -⟩ := setSoftwareBreakpoint_stopped rfl rfl arming
  have clearing := eq_of_toOption (show (clearSoftwareBreakpoint.through
    ((setSoftwareBreakpoint 0x8100).through {} ({ machine := .supervising } : Simulator)).1.2
    ((setSoftwareBreakpoint 0x8100).through {} ({ machine := .supervising } :
      Simulator)).2.leaveHypervisor).1.1.toOption =
    some (some ⟨.flat 0x0FFF8100, #v[0xA9, 0x02, 0x60]⟩) by decide +kernel)
  obtain ⟨-, -, -, -, rest, same, others, -⟩ := clearing_undoes_arming rfl rfl arming
    (by exact drained) clearing
  refine ⟨_, _, _, _, _, arming, clearing, rfl, by rw [rest], ?_, ?_⟩
  · exact (same 0 (by decide)).trans (by decide +kernel)
  · exact (others 0x8100 (by decide +kernel)).trans (by decide +kernel)

end Action

end RemoteDebugger
