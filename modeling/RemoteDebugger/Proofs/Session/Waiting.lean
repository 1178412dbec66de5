import RemoteDebugger.Proofs.Session.Breakpoint

/-!
Waiting for a running processor to stall. Whatever lasts while time passes holds of the state in
which the end is noticed, and there are three ways to end: a stall inside the patch, which is then
taken out, a stall elsewhere, and the operator's wish.
-/

set_option autoImplicit false

namespace RemoteDebugger.Action

variable {session next : Session} {simulator final : Simulator} {armed : SoftwareBreakpoint}
  {pc : UInt16} {reason : StopReason}

/-- How waiting for a stall can end in the state in which the end is noticed: with which reason,
which breakpoint in the slot, and what has become of the monitor. -/
inductive Ending (armed : SoftwareBreakpoint) (noticed : Simulator) :
    StopReason → Option SoftwareBreakpoint → Simulator → Prop where
  | hit (inside : armed.contains noticed.machine.registers.pc = true) :
      Ending armed noticed (.softwareBreakpoint noticed.machine.registers.pc) none
        { noticed with running := false, machine := armed.unpatch noticed.machine }
  | halted (outside : armed.contains noticed.machine.registers.pc = false) :
      Ending armed noticed (.halted noticed.machine.registers.pc) (some armed) noticed
  | cancelled : Ending armed noticed .cancelled (some armed) { noticed with running := false }

theorem stalled_ending (quiet : simulator.pending = []) (slot : session.breakpoint = some armed)
    (here : pc = simulator.machine.registers.pc)
    (led : (stalled pc).through session simulator = ((.ok reason, next), final)) :
    Ending armed simulator reason next.breakpoint final := by
  subst here
  rw [stalled, through_bind_of_ok (through_get _ _), slot] at led
  cases inside : armed.contains simulator.machine.registers.pc with
  | true =>
    rw [Option.filter_some, if_pos inside, through_bind_of_ok (through_enter _ _ _)] at led
    simp only at led
    rw [bind_eq_ok] at led
    obtain ⟨removed, _, _, cleared, led⟩ := led
    obtain ⟨-, rfl, rfl⟩ := clearSoftwareBreakpoint_eq_ok quiet (by exact slot) cleared
    rw [through_pure] at led
    cases led
    exact .hit inside
  | false =>
    rw [Option.filter_some, if_neg (by simp [inside]), through_bind_of_ok (through_enter _ _ _)]
      at led
    simp only at led
    rw [through_pure] at led
    cases led
    simp only [slot]
    exact .halted inside

theorem awaitStall_ending {property : Simulator → Prop} {left : Nat} {count : StallCount}
    (lasting : Simulator.Lasting property) (quiet : simulator.pending = [])
    (holds : property simulator) (slot : session.breakpoint = some armed)
    (led : (awaitStall left count).through session simulator = ((.ok reason, next), final)) :
    ∃ noticed, property noticed ∧ Ending armed noticed reason next.breakpoint final := by
  induction left generalizing session simulator count with
  | zero =>
    rw [awaitStall, through_throw] at led
    simp at led
  | succ left ih =>
    -- A round asks for the operator's wish and then polls, and what lasts is kept by both.
    rw [awaitStall, through_bind_of_ok (through_isCancelled _ _)] at led
    have asked := lasting.asked _ holds
    have drained : (Transport.interrupted simulator).2.pending = [] := quiet
    split at led
    · rw [abort, bind_eq_ok] at led
      obtain ⟨_, _, halted, halting, led⟩ := led
      obtain ⟨rfl, rfl⟩ := setRunning_eq_ok drained halting
      rw [through_bind_of_ok (through_enter _ _ _), through_pure] at led
      cases led
      refine ⟨_, asked, ?_⟩
      simp only [slot]
      exact .cancelled
    · rw [through_bind_of_ok (through_pause _ _), through_bind_of_ok (through_get _ _),
        bind_eq_ok] at led
      obtain ⟨registers, _, _, read, led⟩ := led
      obtain ⟨rfl, rfl, shown⟩ := readRegisters_eq_ok drained read
      simp only at led
      split at led
      · exact ih rfl (lasting.polled _ asked) (by exact slot) led
      · refine ⟨_, lasting.polled _ asked, stalled_ending rfl (by exact slot) ?_ led⟩
        rw [shown]

end RemoteDebugger.Action
