import RemoteDebugger.Proofs.Machine.Rounds
import RemoteDebugger.Proofs.Session.Transparency
import RemoteDebugger.Session.Stepping

/-!
What stepping commands execute. The processor stays stopped between two steps, so polls do not move
it, and a command that completes has executed exactly the instructions of its rounds. Where a round
ends is decided by the program counter alone: a call counts as returned when the program counter is
behind it, at whichever depth of calls.
-/

set_option autoImplicit false

namespace RemoteDebugger

open Machine (execute StepsOver LeavesLine ReturnsAt)

/-- No reply waits, and the processor is stopped in a state of the machine. -/
structure Simulator.Paused (machine : Machine) (simulator : Simulator) : Prop where
  quiet : simulator.pending = []
  stopped : simulator.running = false
  holds : simulator.machine = machine

namespace Simulator.Paused

variable {machine other : Machine} {simulator : Simulator}

theorem polled (paused : simulator.Paused machine) : simulator.polled.Paused machine := by
  obtain ⟨stopped, holds⟩ := (lasting_stopped machine).polled simulator
    ⟨paused.stopped, paused.holds⟩
  exact ⟨rfl, stopped, holds⟩

theorem asked (paused : simulator.Paused machine) :
    (Transport.interrupted simulator).2.Paused machine :=
  ⟨paused.quiet, paused.stopped, paused.holds⟩

end Simulator.Paused

theorem Instruction.decode_of_opcode {bytes others : List UInt8} (address : UInt16)
    (same : bytes.getD 0 0 = others.getD 0 0) :
    (decode bytes address).isCall = (decode others address).isCall ∧
      (decode bytes address).isReturn = (decode others address).isReturn ∧
      (decode bytes address).nextAddress = (decode others address).nextAddress := by
  have entry : Opcode.ofByte (bytes.getD 0 0) = Opcode.ofByte (others.getD 0 0) := by rw [same]
  refine ⟨?_, ?_, ?_⟩
  · exact congrArg (fun opcode : Opcode => decide (opcode.mnemonic = "JSR".toList)) entry
  · exact congrArg (fun opcode : Opcode => decide (opcode.mnemonic = "RTS".toList) ||
      decide (opcode.mnemonic = "RTI".toList) || decide (opcode.mnemonic = "RTN".toList)) entry
  · exact congrArg (fun opcode : Opcode => address + UInt16.ofNat opcode.mode.size) entry

theorem Simulator.getD_window (machine : Machine) (address : UInt16) :
    (window machine (Address.cpu address).physical).bytes.toList.getD 0 0 =
      machine.byteAt address := by
  rw [← Machine.read_cpu]
  simp [window, List.getD_eq_getElem?_getD]

/-- The instruction that a window at the program counter shows. -/
def Machine.glimpsed (machine : Machine) : Instruction :=
  .decode (Simulator.window machine (Address.cpu machine.registers.pc).physical).bytes.toList
    machine.registers.pc

theorem Machine.glimpsed_eq (machine : Machine) :
    machine.glimpsed.isCall = machine.current.isCall ∧
      machine.glimpsed.isReturn = machine.current.isReturn ∧
      machine.glimpsed.nextAddress = machine.current.nextAddress :=
  have opcode := Simulator.getD_window machine machine.registers.pc
  Instruction.decode_of_opcode machine.registers.pc opcode

/-- A stopped monitor at the call of a subroutine at `$2004`, with a return behind the call. -/
def Simulator.calling : Simulator := .loaded 0x01FD [0x20, 0x04, 0x20, 0x60, 0xE8, 0x60]

namespace Action

variable {session next : Session} {simulator after : Simulator} {machine : Machine}
  {address pc : UInt16} {left rounds count : Nat}

theorem readRegisters_paused {registers : Registers} (paused : simulator.Paused machine)
    (led : (onLink (·.readRegisters)).through session simulator =
      ((.ok registers, next), after)) :
    next = session ∧ after.Paused machine ∧
      registers = { machine.registers with flags := registers.flags } := by
  obtain ⟨same, rfl, shown⟩ := readRegisters_eq_ok paused.quiet led
  have polled := paused.polled
  rw [polled.holds] at shown
  exact ⟨same, polled, shown⟩

theorem singleStep_paused {value : Unit} (paused : simulator.Paused machine)
    (led : (onLink (·.singleStep)).through session simulator = ((.ok value, next), after)) :
    next = session ∧ after.Paused machine.execute := by
  obtain ⟨same, rfl⟩ := singleStep_eq_ok paused.quiet led
  exact ⟨same, paused.quiet, paused.stopped, congrArg execute paused.holds⟩

theorem stepOver_paused {value : Unit} (paused : simulator.Paused machine)
    (led : (onLink (·.stepOver)).through session simulator = ((.ok value, next), after)) :
    next = session ∧ after.Paused (Simulator.stepOver machine) := by
  have silent : Command.stepOver.IsSilent := trivial
  obtain ⟨same, rfl⟩ := tell_eq_ok silent paused.quiet led
  exact ⟨same, paused.quiet, paused.stopped, congrArg Simulator.stepOver paused.holds⟩

theorem currentInstruction_paused {registers : Registers} {instruction : Instruction}
    (paused : simulator.Paused machine)
    (led : currentInstruction.through session simulator =
      ((.ok (registers, instruction), next), after)) :
    next = session ∧ after.Paused machine ∧
      registers = { machine.registers with flags := registers.flags } ∧
      instruction.isCall = machine.current.isCall ∧
      instruction.isReturn = machine.current.isReturn ∧
      instruction.nextAddress = machine.current.nextAddress := by
  rw [currentInstruction, bind_eq_ok] at led
  obtain ⟨shown, _, polled, reading, led⟩ := led
  obtain ⟨rfl, paused, same⟩ := readRegisters_paused paused reading
  rw [bind_eq_ok] at led
  obtain ⟨window, _, looked, looking, led⟩ := led
  obtain ⟨rfl, rfl, rfl⟩ := readWindow_eq_ok paused.quiet looking
  have here : shown.pc = machine.registers.pc := by rw [same]
  rw [through_pure, here, paused.holds] at led
  cases led
  exact ⟨rfl, paused, same, machine.glimpsed_eq⟩

theorem complete_paused {reason : StopReason} (paused : simulator.Paused machine)
    (led : complete.through session simulator = ((.ok reason, next), after)) :
    reason = .completed machine.registers.pc ∧ after.Paused machine := by
  rw [complete, bind_eq_ok] at led
  obtain ⟨registers, _, polled, reading, led⟩ := led
  obtain ⟨rfl, paused, same⟩ := readRegisters_paused paused reading
  rw [through_bind_of_ok (through_enter _ _ _), through_pure] at led
  cases led
  exact ⟨by rw [same], paused⟩

theorem abort_ne_completed
    (led : abort.through session simulator = ((.ok (.completed pc), next), after)) : False := by
  rw [abort, bind_eq_ok] at led
  obtain ⟨_, _, _, -, led⟩ := led
  rw [through_bind_of_ok (through_enter _ _ _), through_pure] at led
  simp at led

theorem stepUntil_eq_ok (paused : simulator.Paused machine)
    (led : (stepUntil address left).through session simulator = ((.ok true, next), after)) :
    ∃ steps, FirstAfter execute (fun other => other.registers.pc = address) machine steps ∧
      after.Paused (execute^[steps] machine) := by
  induction left generalizing session simulator machine with
  | zero =>
    rw [stepUntil, through_throw] at led
    simp at led
  | succ left ih =>
    rw [stepUntil, through_bind_of_ok (through_isCancelled _ _)] at led
    have asked := paused.asked
    split at led
    · rw [through_pure] at led
      simp at led
    · rw [bind_eq_ok] at led
      obtain ⟨_, _, _, stepping, led⟩ := led
      obtain ⟨rfl, stepped⟩ := singleStep_paused asked stepping
      rw [bind_eq_ok] at led
      obtain ⟨registers, _, _, reading, led⟩ := led
      obtain ⟨rfl, polled, same⟩ := readRegisters_paused stepped reading
      have here : registers.pc = machine.execute.registers.pc := by rw [same]
      rw [here] at led
      split at led
      · rename_i arrived
        rw [through_pure] at led
        cases led
        exact ⟨1, .one arrived, polled⟩
      · rename_i further
        obtain ⟨steps, first, paused⟩ := ih polled led
        exact ⟨steps + 1, first.succ further, paused⟩

/-- One instruction as a way of stepping. -/
def oneInstruction : Action Bool := do
  onLink (·.singleStep)
  pure true

theorem oneInstruction_eq_ok (paused : simulator.Paused machine)
    (led : oneInstruction.through session simulator = ((.ok true, next), after)) :
    ∃ moves, moves = 1 ∧ after.Paused (execute^[moves] machine) := by
  rw [oneInstruction, bind_eq_ok] at led
  obtain ⟨_, _, _, stepping, led⟩ := led
  obtain ⟨rfl, stepped⟩ := singleStep_paused paused stepping
  rw [through_pure] at led
  cases led
  exact ⟨1, rfl, stepped⟩

theorem nextInstruction_eq_ok (paused : simulator.Paused machine)
    (led : (nextInstruction rounds).through session simulator = ((.ok true, next), after)) :
    ∃ steps, machine.StepsOver steps ∧ after.Paused (execute^[steps] machine) := by
  rw [nextInstruction, bind_eq_ok] at led
  obtain ⟨⟨registers, instruction⟩, _, looked, looking, led⟩ := led
  obtain ⟨rfl, paused, -, call, -, behind⟩ := currentInstruction_paused paused looking
  simp only [call, behind] at led
  split at led
  · rename_i calls
    rw [Machine.nextAddress_of_isCall calls] at led
    obtain ⟨steps, first, paused⟩ := stepUntil_eq_ok paused led
    exact ⟨steps, (Machine.stepsOver_call calls).mpr first, paused⟩
  · rename_i plain
    obtain ⟨steps, single, paused⟩ := oneInstruction_eq_ok paused led
    exact ⟨steps, (Machine.stepsOver_single plain).mpr single, paused⟩

theorem leaveLine_eq_ok {range : LineRange} (paused : simulator.Paused machine)
    (led : (leaveLine (some range) left).through session simulator = ((.ok true, next), after)) :
    ∃ moves, FirstAfter Simulator.stepOver
        (fun other => range.contains other.registers.pc = false) machine moves ∧
      after.Paused (Simulator.stepOver^[moves] machine) := by
  induction left generalizing session simulator machine with
  | zero =>
    rw [leaveLine, through_throw] at led
    simp at led
  | succ left ih =>
    rw [leaveLine, bind_eq_ok] at led
    obtain ⟨_, _, _, stepping, led⟩ := led
    obtain ⟨rfl, stepped⟩ := stepOver_paused paused stepping
    rw [bind_eq_ok] at led
    obtain ⟨registers, _, _, reading, led⟩ := led
    obtain ⟨rfl, polled, same⟩ := readRegisters_paused stepped reading
    have here : registers.pc = (Simulator.stepOver machine).registers.pc := by rw [same]
    rw [here] at led
    split at led
    · rename_i outside
      rw [through_pure] at led
      cases led
      exact ⟨1, .one (by simpa using outside), polled⟩
    · rename_i inside
      rw [through_bind_of_ok (through_isCancelled _ _)] at led
      have asked := polled.asked
      split at led
      · rw [through_pure] at led
        simp at led
      · obtain ⟨moves, first, paused⟩ := ih asked led
        exact ⟨moves + 1, first.succ (by simpa using inside), paused⟩

theorem nextLine_eq_ok {lineAt : UInt16 → Option LineRange} (paused : simulator.Paused machine)
    (led : (nextLine rounds lineAt).through session simulator = ((.ok true, next), after)) :
    ∃ moves, machine.LeavesLine lineAt moves ∧
      after.Paused (Simulator.stepOver^[moves] machine) := by
  rw [nextLine, bind_eq_ok] at led
  obtain ⟨registers, _, _, reading, led⟩ := led
  obtain ⟨rfl, polled, same⟩ := readRegisters_paused paused reading
  have here : registers.pc = machine.registers.pc := by rw [same]
  rw [here] at led
  cases known : lineAt machine.registers.pc with
  | some range =>
    rw [known] at led
    obtain ⟨moves, first, paused⟩ := leaveLine_eq_ok polled led
    exact ⟨moves, (Machine.leavesLine_known known).mpr first, paused⟩
  | none =>
    rw [known] at led
    cases rounds with
    | zero =>
      rw [leaveLine, through_throw] at led
      simp at led
    | succ rounds =>
      rw [leaveLine, bind_eq_ok] at led
      obtain ⟨_, _, _, stepping, led⟩ := led
      obtain ⟨rfl, stepped⟩ := stepOver_paused polled stepping
      rw [through_pure] at led
      cases led
      exact ⟨1, (Machine.leavesLine_unknown known).mpr rfl, stepped⟩

theorem repeatStep_eq_ok {one : Action Bool} {move : Machine → Machine}
    {round : Machine → Nat → Prop}
    (each : ∀ {session next : Session} {simulator after : Simulator} {machine : Machine},
      simulator.Paused machine → one.through session simulator = ((.ok true, next), after) →
        ∃ moves, round machine moves ∧ after.Paused (move^[moves] machine))
    (paused : simulator.Paused machine)
    (led : (repeatStep one count).through session simulator =
      ((.ok (.completed pc), next), after)) :
    ∃ counts, Rounds move round machine counts ∧ counts.length = count ∧
      after.Paused (move^[counts.sum] machine) ∧
      pc = (move^[counts.sum] machine).registers.pc := by
  induction count generalizing session simulator machine with
  | zero =>
    rw [repeatStep] at led
    obtain ⟨same, paused⟩ := complete_paused paused led
    cases same
    exact ⟨[], .none machine, rfl, paused, rfl⟩
  | succ count ih =>
    rw [repeatStep, through_bind_of_ok (through_isCancelled _ _)] at led
    have asked := paused.asked
    split at led
    · exact (abort_ne_completed led).elim
    · rw [bind_eq_ok] at led
      obtain ⟨completed, _, _, stepping, led⟩ := led
      cases completed with
      | false => exact (abort_ne_completed led).elim
      | true =>
        obtain ⟨moves, first, stepped⟩ := each asked stepping
        obtain ⟨counts, rest, length, paused, here⟩ := ih stepped led
        rw [← iterate_sum_cons] at paused here
        exact ⟨moves :: counts, .more first rest, by rw [List.length_cons, length], paused, here⟩

theorem stepTimes_eq_repeatStep (count : Nat) :
    stepTimes count = repeatStep oneInstruction count := by
  induction count with
  | zero => rfl
  | succ count ih =>
    rw [stepTimes, repeatStep, ih]
    simp [oneInstruction]

theorem stepTimes_eq_ok (paused : simulator.Paused machine)
    (led : (stepTimes count).through session simulator = ((.ok (.completed pc), next), after)) :
    after.Paused (execute^[count] machine) ∧ pc = (execute^[count] machine).registers.pc := by
  rw [stepTimes_eq_repeatStep] at led
  obtain ⟨counts, rounds, rfl, stepped, here⟩ := repeatStep_eq_ok oneInstruction_eq_ok paused led
  rw [rounds.sum_eq_length] at stepped here
  exact ⟨stepped, here⟩

theorem runToReturn_eq_ok {entry : UInt16} (paused : simulator.Paused machine)
    (led : (runToReturn rounds entry left).through session simulator =
      ((.ok (.completed pc), next), after)) :
    ∃ counts last,
      Rounds execute (fun other steps => ¬ other.ReturnsAt entry ∧ other.StepsOver steps) machine
        counts ∧
      (execute^[counts.sum] machine).ReturnsAt entry ∧
      (execute^[counts.sum] machine).StepsOver last ∧
      after.Paused (execute^[counts.sum + last] machine) ∧
      pc = (execute^[counts.sum + last] machine).registers.pc := by
  induction left generalizing session simulator machine with
  | zero =>
    rw [runToReturn, through_throw] at led
    simp at led
  | succ left ih =>
    rw [runToReturn, through_bind_of_ok (through_isCancelled _ _)] at led
    have asked := paused.asked
    split at led
    · exact (abort_ne_completed led).elim
    rw [bind_eq_ok] at led
    obtain ⟨⟨registers, instruction⟩, _, _, looking, led⟩ := led
    obtain ⟨rfl, looked, same, -, returns, -⟩ := currentInstruction_paused asked looking
    simp only at led
    rw [bind_eq_ok] at led
    obtain ⟨completed, _, _, stepping, led⟩ := led
    cases completed with
    | false => exact (abort_ne_completed led).elim
    | true =>
      obtain ⟨steps, passes, stepped⟩ := nextInstruction_eq_ok looked stepping
      have sp : registers.sp = machine.registers.sp := by rw [same]
      have returning : (instruction.isReturn && registers.sp == entry) = true ↔
          machine.ReturnsAt entry := by
        rw [returns, sp, Bool.and_eq_true, beq_iff_eq]
        rfl
      simp only [Bool.not_true, Bool.false_eq_true, if_false] at led
      split at led
      · rename_i here
        obtain ⟨ended, paused⟩ := complete_paused stepped led
        cases ended
        refine ⟨[], steps, .none machine, returning.mp here, passes, ?_⟩
        rw [List.sum_nil, Nat.zero_add]
        exact ⟨paused, rfl⟩
      · rename_i further
        obtain ⟨counts, last, rest, found, ending⟩ := ih stepped led
        refine ⟨steps :: counts, last, .more ⟨mt returning.mpr further, passes⟩ rest, ?_⟩
        rw [Nat.add_comm, Function.iterate_add_apply] at ending
        rw [Nat.add_comm, Function.iterate_add_apply, iterate_sum_cons]
        exact ⟨found, ending⟩

theorem stepOverBy_software_eq_ok {lineAt : UInt16 → Option LineRange}
    (paused : simulator.Paused machine)
    (led : (stepOverBy rounds count false lineAt).through session simulator =
      ((.ok (.completed pc), next), after)) :
    ∃ counts, Rounds execute StepsOver machine counts ∧ counts.length = count ∧
      after.Paused (execute^[counts.sum] machine) ∧
      pc = (execute^[counts.sum] machine).registers.pc := by
  rw [stepOverBy, command_eq_ok, through_bind_of_ok (through_enter _ _ _)] at led
  exact repeatStep_eq_ok nextInstruction_eq_ok paused.asked led

theorem stepOverBy_hardware_eq_ok {lineAt : UInt16 → Option LineRange}
    (paused : simulator.Paused machine)
    (led : (stepOverBy rounds count true lineAt).through session simulator =
      ((.ok (.completed pc), next), after)) :
    ∃ counts, Rounds Simulator.stepOver (LeavesLine lineAt) machine counts ∧
      counts.length = count ∧ after.Paused (Simulator.stepOver^[counts.sum] machine) ∧
      pc = (Simulator.stepOver^[counts.sum] machine).registers.pc := by
  rw [stepOverBy, command_eq_ok, through_bind_of_ok (through_enter _ _ _)] at led
  exact repeatStep_eq_ok nextLine_eq_ok paused.asked led

/-- Stepping refines execution. A stepping command that completes leaves the registers and the
memory that so many instructions make of them: as many as were asked for, or as many as the rounds
of a step over have together, or the rounds up to the first return that finds the stack pointer as
it was. -/
theorem stepping_executes {target : Simulator} (quiet : target.pending = [])
    (stopped : target.running = false) :
    (∀ count pc next final,
      (step count).through session target = ((.ok (.completed pc), next), final) →
        final.machine = execute^[count] target.machine ∧ pc = final.machine.registers.pc) ∧
    (∀ rounds count lineAt pc next final,
      (stepOverBy rounds count false lineAt).through session target =
          ((.ok (.completed pc), next), final) →
        ∃ counts, Rounds execute StepsOver target.machine counts ∧ counts.length = count ∧
          final.machine = execute^[counts.sum] target.machine ∧
          pc = final.machine.registers.pc) ∧
    ∀ rounds pc next final,
      (finish rounds).through session target = ((.ok (.completed pc), next), final) →
        ∃ counts last,
          Rounds execute (fun machine steps => ¬ machine.ReturnsAt target.machine.registers.sp ∧
            machine.StepsOver steps) target.machine counts ∧
          (execute^[counts.sum] target.machine).ReturnsAt target.machine.registers.sp ∧
          (execute^[counts.sum] target.machine).StepsOver last ∧
          final.machine = execute^[counts.sum + last] target.machine ∧
          pc = final.machine.registers.pc := by
  have paused : target.Paused target.machine := ⟨quiet, stopped, rfl⟩
  refine ⟨?_, ?_, ?_⟩
  · intro count pc next final led
    rw [step, command_eq_ok, through_bind_of_ok (through_enter _ _ _)] at led
    obtain ⟨ended, here⟩ := stepTimes_eq_ok paused.asked led
    exact ⟨ended.holds, here.trans (by rw [ended.holds])⟩
  · intro rounds count lineAt pc next final led
    obtain ⟨counts, made, length, ended, here⟩ := stepOverBy_software_eq_ok paused led
    exact ⟨counts, made, length, ended.holds, here.trans (by rw [ended.holds])⟩
  · intro rounds pc next final led
    rw [finish, command_eq_ok, through_bind_of_ok (through_enter _ _ _), bind_eq_ok] at led
    obtain ⟨registers, _, _, reading, led⟩ := led
    obtain ⟨rfl, polled, same⟩ := readRegisters_paused paused.asked reading
    have entry : registers.sp = target.machine.registers.sp := by rw [same]
    rw [entry] at led
    obtain ⟨counts, last, made, returns, passes, ended, here⟩ := runToReturn_eq_ok polled led
    exact ⟨counts, last, made, returns, passes, ended.holds, here.trans (by rw [ended.holds])⟩

theorem stepOver_calling :
    ((stepOver 10 1 false none).through {} Simulator.calling).1.1.toOption =
      some (.completed 0x2003) := by
  decide +kernel

theorem stepping_executes_call :
    (∃ next final, (step 2).through {} Simulator.calling =
        ((.ok (.completed 0x2005), next), final) ∧
      final.machine = execute^[2] Simulator.calling.machine) ∧
    (∃ next final counts, (stepOverBy 10 1 false fun _ => none).through {} Simulator.calling =
        ((.ok (.completed 0x2003), next), final) ∧
      final.machine = execute^[List.sum counts] Simulator.calling.machine) ∧
    ∃ next final counts last, (finish 10).through {} Simulator.calling =
        ((.ok (.completed 0x0001), next), final) ∧
      final.machine = execute^[List.sum counts + last] Simulator.calling.machine := by
  have single := eq_of_toOption (show ((step 2).through {} Simulator.calling).1.1.toOption =
    some (.completed 0x2005) by decide +kernel)
  have passes := eq_of_toOption stepOver_calling
  have returned := eq_of_toOption (show ((finish 10).through {} Simulator.calling).1.1.toOption =
    some (.completed 0x0001) by decide +kernel)
  have quiet : Simulator.calling.pending = [] := rfl
  have stopped : Simulator.calling.running = false := rfl
  obtain ⟨stepping, passing, leaving⟩ := @stepping_executes {} Simulator.calling quiet stopped
  obtain ⟨counts, -, -, passed, -⟩ := passing _ _ _ _ _ _ passes
  obtain ⟨before, last, -, -, -, left, -⟩ := leaving _ _ _ _ returned
  exact ⟨⟨_, _, single, (stepping _ _ _ _ single).1⟩, ⟨_, _, counts, passes, passed⟩,
    ⟨_, _, before, last, returned, left⟩⟩

/-- A step over at a call ends where the program counter is behind the call for the first time. The
stack pointer is back there if and only if this is the call's own return. -/
theorem stepOver_ends_behind_call {target final : Simulator} (quiet : target.pending = [])
    (stopped : target.running = false) (call : target.machine.current.opcode = 0x20)
    (led : (stepOver rounds 1 false none).through session target =
      ((.ok (.completed pc), next), final)) :
    pc = target.machine.registers.pc + 3 ∧
      final.machine.registers.pc = target.machine.registers.pc + 3 ∧
      ∃ steps,
        FirstAfter execute (fun other => other.registers.pc = target.machine.registers.pc + 3)
          target.machine steps ∧
        final.machine = execute^[steps] target.machine ∧
        (final.machine.registers.sp = target.machine.registers.sp ↔
          target.machine.ComesBack steps) := by
  have paused : target.Paused target.machine := ⟨quiet, stopped, rfl⟩
  obtain ⟨counts, made, length, ended, here⟩ := stepOverBy_software_eq_ok paused led
  obtain ⟨steps, rfl⟩ := List.length_eq_one_iff.mp length
  cases made with
  | more passes _ =>
    have first := (Machine.stepsOver_call (Machine.isCall_of_opcode call)).mp passes
    rw [List.sum_singleton] at ended here
    have behind : final.machine.registers.pc = target.machine.registers.pc + 3 := by
      rw [ended.holds]
      exact first.1.2
    refine ⟨here.trans first.1.2, behind, steps, first, ended.holds, ?_⟩
    rw [ended.holds]
    exact Machine.comesBack_iff first

theorem stepOver_ends_behind_call_returning :
    ∃ next final steps, (stepOver 10 1 false none).through {} Simulator.calling =
        ((.ok (.completed 0x2003), next), final) ∧
      final.machine = execute^[steps] Simulator.calling.machine ∧
      (final.machine.registers.sp = 0x01FD ↔ Simulator.calling.machine.ComesBack steps) := by
  have led := eq_of_toOption stepOver_calling
  have call : Simulator.calling.machine.current.opcode = 0x20 := by decide +kernel
  obtain ⟨-, -, steps, -, ended, back⟩ := stepOver_ends_behind_call rfl rfl call led
  exact ⟨_, _, steps, led, ended, back⟩

theorem stepOver_ends_inside_call :
    ¬ ∀ (session next : Session) (target final : Simulator) (rounds : Nat) (pc : UInt16),
      target.Ready → target.running = false → target.machine.current.opcode = 0x20 →
      (stepOver rounds 1 false none).through session target =
        ((.ok (.completed pc), next), final) →
      pc = target.machine.registers.pc + 3 ∧
        final.machine.registers.sp = target.machine.registers.sp := by
  intro returns
  have led := eq_of_toOption (show ((stepOver 10 1 false none).through {}
    (Simulator.loaded 0x01FF [0x20, 0x04, 0x20, 0x60, 0x20, 0x03, 0x20, 0x60])).1.1.toOption =
      some (.completed 0x2003) by decide +kernel)
  have back := (returns {} _ _ _ 10 0x2003 ⟨rfl, rfl⟩ rfl (by decide +kernel) led).2
  revert back
  decide +kernel

end Action

end RemoteDebugger
