import RemoteDebugger.Proofs.Session.Footprint
import RemoteDebugger.Proofs.Session.Transcript
import RemoteDebugger.Proofs.Session.Transparency

/-!
Removing the software breakpoint over a link that fails. The slot is emptied before a line is sent,
so a removal that fails has forgotten the saved bytes: a second one has nothing to put back, and the
patch stays where it is.
-/

set_option autoImplicit false

namespace RemoteDebugger.Action

variable {σ τ : Type} [Transport σ] [Transport τ] {session next : Session} {remote after : τ}
  {armed : SoftwareBreakpoint} {pc : UInt16} {failure : Failure}

theorem clearSoftwareBreakpoint_session {result : Except Failure (Option SoftwareBreakpoint)}
    (led : clearSoftwareBreakpoint.through session remote = ((result, next), after)) :
    next = { session with breakpoint := none } := by
  rw [clearSoftwareBreakpoint, through_bind_of_ok (through_get _ _)] at led
  split at led
  · rename_i slot
    rw [through_pure] at led
    cases led
    rw [← slot]
  · rw [through_bind_of_ok (through_set _ _ _)] at led
    rcases bind_eq_iff.mp led with ⟨_, failed, -⟩ | ⟨_, _, _, halted, led⟩
    · exact onLink_session failed
    cases onLink_session halted
    rcases bind_eq_iff.mp led with ⟨_, failed, -⟩ | ⟨_, _, _, written, led⟩
    · exact onLink_session failed
    cases onLink_session written
    rw [through_pure] at led
    cases led
    rfl

theorem through_clearSoftwareBreakpoint_of_none (slot : session.breakpoint = none) (remote : τ) :
    clearSoftwareBreakpoint.through session remote = ((.ok none, session), remote) := by
  rw [clearSoftwareBreakpoint, through_bind_of_ok (through_get _ _), slot]
  rfl

theorem clearSoftwareBreakpoint_reads {simulator final : Simulator} {removed : SoftwareBreakpoint}
    (quiet : simulator.pending = [])
    (led : clearSoftwareBreakpoint.through session simulator = ((.ok (some removed), next), final))
    {index : Nat} (small : index < 3) :
    final.machine.read (removed.place index) = removed.saved.toList.getD index 0 := by
  cases slot : session.breakpoint with
  | none =>
    rw [through_clearSoftwareBreakpoint_of_none slot] at led
    simp at led
  | some armed =>
    obtain ⟨same, -, rfl⟩ := clearSoftwareBreakpoint_eq_ok quiet slot led
    cases same
    exact SoftwareBreakpoint.read_unpatch small

theorem clearSoftwareBreakpoint_eq_error {simulator final : Simulator}
    (quiet : simulator.pending = []) (slot : session.breakpoint = some armed)
    (led : clearSoftwareBreakpoint.through session simulator = ((.error failure, next), final)) :
    final.machine = simulator.machine := by
  rw [clearSoftwareBreakpoint, through_bind_of_ok (through_get _ _), slot] at led
  simp only at led
  rw [through_bind_of_ok (through_set _ _ _)] at led
  rcases bind_eq_iff.mp led with ⟨_, failed, -⟩ | ⟨_, _, halted, halting, led⟩
  · rw [(setRunning_eq_error quiet failed).2]
  obtain ⟨rfl, rfl⟩ := setRunning_eq_ok quiet halting
  have drained : ({ simulator with running := false } : Simulator).pending = [] := quiet
  rcases bind_eq_iff.mp led with ⟨_, failed, -⟩ | ⟨_, _, restored, writing, led⟩
  · rw [(writeMemory_eq_error armed.saved_ne_nil armed.saved_short drained failed).2]
  · simp at led

theorem transcript_clearSoftwareBreakpoint_of_none (slot : session.breakpoint = none) (remote : τ) :
    clearSoftwareBreakpoint.transcript session remote = [] := by
  rw [clearSoftwareBreakpoint, transcript_bind]
  show [] ++ _ = _
  simp only [through_get, slot, List.nil_append]
  rfl

theorem stalled_eq_error (slot : session.breakpoint = some armed)
    (inside : armed.contains pc = true)
    (failed : (stalled pc).through session remote = ((.error failure, next), after)) :
    clearSoftwareBreakpoint.through { session with state := .stopped } remote =
      ((.error failure, next), after) := by
  rw [stalled, through_bind_of_ok (through_get _ _), slot, Option.filter_some, if_pos inside] at failed
  simp only at failed
  rw [through_bind_of_ok (through_enter _ _ _)] at failed
  rcases bind_eq_iff.mp failed with ⟨cause, failed, same⟩ | ⟨_, _, _, _, impossible⟩
  · cases same
    exact failed
  · simp at impossible

/-- A removal that fails, on its own or at a stall inside the patch, has forgotten the breakpoint.
Over no link does a later removal send a line, or do anything to the other side. -/
theorem removal_forgets (slot : session.breakpoint = some armed)
    (inside : armed.contains pc = true)
    (failed : clearSoftwareBreakpoint.through session remote = ((.error failure, next), after) ∨
      (stalled pc).through session remote = ((.error failure, next), after)) (later : σ) :
    next.breakpoint = none ∧ clearSoftwareBreakpoint.transcript next later = [] ∧
      clearSoftwareBreakpoint.through next later = ((.ok none, next), later) := by
  have empty : next.breakpoint = none := by
    rcases failed with direct | stall
    · rw [clearSoftwareBreakpoint_session direct]
    · rw [clearSoftwareBreakpoint_session (stalled_eq_error slot inside stall)]
  exact ⟨empty, transcript_clearSoftwareBreakpoint_of_none empty later,
    through_clearSoftwareBreakpoint_of_none empty later⟩

/-- A breakpoint at `LDA #$02`. -/
def loadBreakpoint : SoftwareBreakpoint :=
  .armedOn (Simulator.loaded 0x01FF [0xA9, 0x02, 0x60]).machine 0x2000

/-- The monitor with that breakpoint in place, whose device fails at a line. -/
def failingAt (line : Text) : Simulator :=
  { Simulator.loaded 0x01FF [0xA9, 0x02, 0x60] with
    machine := loadBreakpoint.patch (Simulator.loaded 0x01FF [0xA9, 0x02, 0x60]).machine
    failOn := some line }

/-- The device fails at the write. It works again when the removal is repeated, and the self-jump
stays. -/
theorem removal_forgets_write :
    ∃ failure next after, clearSoftwareBreakpoint.through { breakpoint := some loadBreakpoint }
        (failingAt "s7772000 A9 02 60".toList) = ((.error failure, next), after) ∧
      clearSoftwareBreakpoint.through next { after with failOn := none } =
        ((.ok none, next), { after with failOn := none }) ∧
      after.machine.read 0x7772000 = SoftwareBreakpoint.jumpOpcode := by
  have failed : clearSoftwareBreakpoint.through { breakpoint := some loadBreakpoint }
      (failingAt "s7772000 A9 02 60".toList) =
        ((.error (.link (.io Simulator.lost)), {}),
          { failingAt "s7772000 A9 02 60".toList with running := false }) := by
    rfl
  have inside : loadBreakpoint.contains 0x2000 = true := by decide +kernel
  obtain ⟨-, -, again⟩ := removal_forgets rfl inside (.inl failed)
    ({ failingAt "s7772000 A9 02 60".toList with failOn := none } : Simulator)
  exact ⟨_, _, _, failed, again, by decide +kernel⟩

/-- The device fails at the stop command, before anything was sent to put the bytes back. -/
theorem removal_loses_breakpoint :
    ¬ ∀ (session next : Session) (armed : SoftwareBreakpoint) (target after : Simulator)
      (failure : Failure), target.pending = [] → session.breakpoint = some armed →
      clearSoftwareBreakpoint.through session target = ((.error failure, next), after) →
      next.breakpoint = some armed := by
  intro keeps
  have failed : clearSoftwareBreakpoint.through { breakpoint := some loadBreakpoint }
      (failingAt "t1".toList) =
        ((.error (.link (.io Simulator.lost)), {}), failingAt "t1".toList) := by
    rfl
  have kept := keeps _ _ _ _ _ _ rfl rfl failed
  simp at kept

end RemoteDebugger.Action
