import RemoteDebugger.Proofs.Session.Footprint
import RemoteDebugger.Proofs.Session.Transparency

/-!
How a continue to a software breakpoint ends. Until the breakpoint is in place the machine only
executes instructions, and so it does from then on; at the end the patch is taken out again if and
only if the processor has stalled inside it.
-/

set_option autoImplicit false

namespace RemoteDebugger

open SoftwareBreakpoint (armedOn)

/-- The command ended because the processor stalled in the software breakpoint. -/
def StopReason.IsHit : StopReason → Prop
  | softwareBreakpoint _ => True
  | _ => False

theorem StopReason.IsHit.text {reason : StopReason} (hit : reason.IsHit) :
    reason.text.take 8 = "software".toList := by
  cases reason with
  | softwareBreakpoint pc => rfl
  | _ => exact hit.elim

/-- A machine comes to another one by executing instructions. -/
def Machine.Reaches (start machine : Machine) : Prop :=
  ∃ steps, machine = execute^[steps] start

theorem Machine.Reaches.refl (machine : Machine) : machine.Reaches machine :=
  ⟨0, rfl⟩

theorem Machine.Reaches.execute {start machine : Machine} (reaches : start.Reaches machine) :
    start.Reaches machine.execute := by
  obtain ⟨steps, rfl⟩ := reaches
  exact ⟨steps + 1, (Function.iterate_succ_apply' _ _ _).symm⟩

theorem Machine.Reaches.steppedOff {start machine : Machine} (reaches : start.Reaches machine)
    (address : UInt16) : start.Reaches (machine.steppedOff address) := by
  rw [Machine.steppedOff]
  split
  · exact reaches.execute
  · exact reaches

theorem Simulator.lasting_reaches (start : Machine) :
    Lasting fun simulator => start.Reaches simulator.machine where
  polled _ := fun reaches =>
    elapse_induction (fun other => start.Reaches other.machine)
      (fun _ reaches _ _ => reaches.execute) (fun _ reaches _ => reaches) reaches
  halted _ := id
  replied _ _ := id
  asked _ := id

/-- The machine executes some instructions, is patched, and executes some more. -/
def Machine.throughPatch (start : Machine) (place : UInt32) (before after : Nat) : Machine :=
  execute^[after] ((armedOn (execute^[before] start) place).patch (execute^[before] start))

/-- The program stores in none of the patched bytes, neither before nor after it is patched. -/
def Machine.SparesPatch (start : Machine) (place : UInt32) (before after : Nat) : Prop :=
  ∀ index < 3, start.Spares before ((armedOn start place).place index) ∧
    ((armedOn (execute^[before] start) place).patch (execute^[before] start)).Spares after
      ((armedOn start place).place index)

instance (start : Machine) (place : UInt32) (before after : Nat) :
    Decidable (start.SparesPatch place before after) :=
  inferInstanceAs (Decidable (∀ index < 3, _ ∧ _))

namespace Machine

variable {start : Machine} {place : UInt32} {before after : Nat}

theorem inHypervisor_iterate (start : Machine) (steps : Nat) :
    (execute^[steps] start).registers.inHypervisor = start.registers.inHypervisor := by
  induction steps with
  | zero => rfl
  | succ steps ih =>
    rw [Function.iterate_succ_apply', Registers.inHypervisor, execute_maph]
    exact ih

theorem armedOn_iterate (start : Machine) (place : UInt32) (steps : Nat) :
    (armedOn (execute^[steps] start) place).address = (armedOn start place).address := by
  show SoftwareBreakpoint.patchAddress place _ = SoftwareBreakpoint.patchAddress place _
  rw [inHypervisor_iterate]

private theorem place_iterate (start : Machine) (place : UInt32) (steps index : Nat) :
    (armedOn (execute^[steps] start) place).place index = (armedOn start place).place index := by
  rw [SoftwareBreakpoint.place, SoftwareBreakpoint.place, armedOn_iterate]

theorem SparesPatch.inPlace (spares : start.SparesPatch place before after) :
    (armedOn start place).InPlace (start.throughPatch place before after) := by
  intro index small
  rw [throughPatch, (spares index small).2.read, ← place_iterate start place before,
    SoftwareBreakpoint.read_patch small, SoftwareBreakpoint.cpuAddress,
    SoftwareBreakpoint.cpuAddress, armedOn_iterate]

theorem SparesPatch.sameUnder (spares : start.SparesPatch place before after)
    (machine : Machine) : (armedOn start place).SameUnder
      ((armedOn (execute^[before] start) place).unpatch machine) start := by
  intro index small
  rw [← (spares index small).1.read, ← place_iterate start place before,
    SoftwareBreakpoint.read_unpatch small, SoftwareBreakpoint.saved_armedOn _ _ small]

end Machine

namespace Action

variable {session next : Session} {target simulator final : Simulator} {place : UInt32}
  {armed : SoftwareBreakpoint} {reason : StopReason}

theorem Ending.machine {noticed : Simulator} {slot : Option SoftwareBreakpoint}
    (ending : Ending armed noticed reason slot final) :
    (reason.IsHit ∧ final.machine = armed.unpatch noticed.machine) ∨
      (¬ reason.IsHit ∧ final.machine = noticed.machine) := by
  cases ending with
  | hit inside => exact .inl ⟨trivial, rfl⟩
  | halted outside => exact .inr ⟨id, rfl⟩
  | cancelled => exact .inr ⟨id, rfl⟩

theorem prepareTarget_eq_ok {value : Unit} (quiet : simulator.pending = [])
    (led : (prepareTarget (some place) true).through session simulator =
      ((.ok value, next), final)) :
    ∃ seen, simulator.machine.Reaches seen ∧
      next = { session with breakpoint := some (armedOn seen place) } ∧
      final.pending = [] ∧ final.machine = (armedOn seen place).patch seen := by
  have lasting := Simulator.lasting_reaches simulator.machine
  rw [prepareTarget_soft, bind_eq_ok] at led
  obtain ⟨_, _, moved, moving, led⟩ := led
  obtain ⟨rfl, rfl⟩ := stepOff_eq_ok quiet moving
  rw [bind_eq_ok] at led
  obtain ⟨armed, _, _, arming, led⟩ := led
  have reaches := (lasting.polled _ (Machine.Reaches.refl _)).steppedOff place.toUInt16
  obtain ⟨seen, holds, rfl, rfl, drained, patched⟩ :=
    setSoftwareBreakpoint_eq_ok lasting (by exact rfl) reaches arming
  rw [through_pure] at led
  cases led
  exact ⟨seen.machine, holds, rfl, drained, patched⟩

theorem continueExecution_ending {rounds : Nat} (quiet : target.pending = [])
    (led : (continueExecution rounds (some place) true).through session target =
      ((.ok reason, next), final)) :
    ∃ (before after : Nat) (noticed : Simulator),
      noticed.machine = target.machine.throughPatch place before after ∧
      Ending (armedOn (Machine.execute^[before] target.machine) place) noticed reason
        next.breakpoint final := by
  rw [continueExecution, command_eq_ok, runToStall, bind_eq_ok] at led
  obtain ⟨_, _, prepared, preparing, led⟩ := led
  have asked : (Transport.interrupted target).2.pending = [] := quiet
  obtain ⟨seen, ⟨before, reached⟩, rfl, drained, patched⟩ := prepareTarget_eq_ok asked preparing
  rw [bind_eq_ok] at led
  obtain ⟨_, _, started, starting, led⟩ := led
  obtain ⟨rfl, rfl⟩ := setRunning_eq_ok drained starting
  rw [through_bind_of_ok (through_get _ _), through_bind_of_ok (through_enter _ _ _)] at led
  obtain ⟨noticed, ⟨after, runs⟩, ending⟩ := awaitStall_ending
    (Simulator.lasting_reaches ((armedOn seen place).patch seen)) (by exact drained)
    (by rw [← patched]; exact Machine.Reaches.refl _) rfl led
  have same : seen = Machine.execute^[before] target.machine := reached
  refine ⟨before, after, noticed, ?_, ?_⟩
  · rw [Machine.throughPatch, ← same, runs]
  · rw [← same]
    exact ending

theorem continueExecution_sameUnder_iff {rounds : Nat} (quiet : target.pending = [])
    (led : (continueExecution rounds (some place) true).through session target =
      ((.ok reason, next), final)) :
    ∃ before after,
      (reason.IsHit → final.machine = (armedOn (Machine.execute^[before] target.machine)
        place).unpatch (target.machine.throughPatch place before after)) ∧
      (¬ reason.IsHit → final.machine = target.machine.throughPatch place before after) ∧
      (target.machine.SparesPatch place before after →
        ((armedOn target.machine place).SameUnder final.machine target.machine ↔
          reason.IsHit ∨ (armedOn target.machine place).InPlace target.machine)) := by
  obtain ⟨before, after, noticed, reached, ending⟩ := continueExecution_ending quiet led
  rcases ending.machine with ⟨hit, restored⟩ | ⟨missed, left⟩
  · rw [reached] at restored
    refine ⟨before, after, fun _ => restored, fun missed => absurd hit missed, fun spares => ?_⟩
    have same : (armedOn target.machine place).SameUnder final.machine target.machine := by
      rw [restored]
      exact spares.sameUnder _
    exact ⟨fun _ => .inl hit, fun _ => same⟩
  · rw [reached] at left
    refine ⟨before, after, fun hit => absurd hit missed, fun _ => left, fun spares => ?_⟩
    have jumps : (armedOn target.machine place).InPlace final.machine := by
      rw [left]
      exact spares.inPlace
    constructor
    · exact fun same => .inr fun index small => (same index small).symm.trans (jumps index small)
    · rintro (hit | there)
      · exact absurd hit missed
      · exact fun index small => (jumps index small).trans (there index small).symm

end Action

end RemoteDebugger
