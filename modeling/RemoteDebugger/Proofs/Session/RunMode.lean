import RemoteDebugger.Proofs.Session.Continue
import RemoteDebugger.Proofs.Session.Obedience

/-!
Run mode. A stall is told from equal samples of the program counter, which a processor in a tight
loop shows as well as one that has stopped. So a processor that a continue finds halted may still be
in run mode, and arming starts a stopped processor if the session takes too few samples to see that
it is stopped. Outside run mode the processor moves by steps only.
-/

set_option autoImplicit false

namespace RemoteDebugger

open Machine (execute)

namespace Simulator

variable {simulator : Simulator} {machine : Machine}

/-- A processor that is out of run mode is at its hardware breakpoint. -/
def HaltsAtBreakpoint (simulator : Simulator) : Prop :=
  simulator.running = false → simulator.breakpoint = some simulator.machine.registers.pc

theorem HaltsAtBreakpoint.polled (halts : simulator.HaltsAtBreakpoint) :
    simulator.polled.HaltsAtBreakpoint := by
  have later : simulator.elapse.HaltsAtBreakpoint := by
    refine elapse_induction HaltsAtBreakpoint ?_ ?_ halts
    · intro other _ runs _ stopped
      exact absurd (runs.symm.trans stopped) (by simp)
    · exact fun other _ here _ => here
  exact later

theorem elapse_eq (simulator : Simulator) :
    simulator.elapse = { simulator with
      machine := simulator.elapse.machine, running := simulator.elapse.running } := by
  refine elapse_induction (fun other => other =
    { simulator with machine := other.machine, running := other.running }) ?_ ?_ rfl
  · intro other same _ _
    exact congrArg (fun known : Simulator => { known with machine := other.machine.execute }) same
  · intro other same _
    exact congrArg (fun known : Simulator => { known with running := false }) same

theorem polled_settings (simulator : Simulator) :
    simulator.polled.breakpoint = simulator.breakpoint ∧
      simulator.polled.instructionsPerPoll = simulator.instructionsPerPoll ∧
      simulator.polled.frozenPolls = simulator.frozenPolls ∧
      simulator.polled.polls = simulator.polls + 1 := by
  have same := simulator.elapse_eq
  have polls : simulator.elapse.polls = simulator.polls := by rw [same]
  refine ⟨?_, ?_, ?_, congrArg (· + 1) polls⟩
  · show simulator.elapse.breakpoint = simulator.breakpoint
    rw [same]
  · show simulator.elapse.instructionsPerPoll = simulator.instructionsPerPoll
    rw [same]
  · show simulator.elapse.frozenPolls = simulator.frozenPolls
    rw [same]

theorem polled_halts (here : simulator.breakpoint = some simulator.machine.registers.pc)
    (busy : 0 < simulator.instructionsPerPoll) (thawed : simulator.frozenPolls ≤ simulator.polls) :
    simulator.polled.running = false := by
  obtain ⟨slice, more⟩ := Nat.exists_eq_succ_of_ne_zero (Nat.ne_of_gt busy)
  rw [polled_running, elapse, if_neg (Nat.not_lt.mpr thawed), more, runSlice]
  by_cases stopped : simulator.running = false
  · rw [if_pos (by simp [stopped]), stopped]
  · rw [if_neg (by simpa using stopped), if_pos here]

theorem Paused.polls (paused : simulator.Paused machine) (count : Nat) :
    (Simulator.polled^[count] simulator).Paused machine := by
  induction count with
  | zero => exact paused
  | succ count ih =>
    rw [Function.iterate_succ_apply']
    exact ih.polled

end Simulator

/-- What a continue leaves of the run mode. After a hit or a cancellation the processor is stopped.
A halted one is at the program counter that is told, and it is out of run mode only at its hardware
breakpoint; at that it is, if the last poll let it execute instructions and repeated the sample
before it. -/
def StopReason.Leaves (reason : StopReason) (config : Config) (final : Simulator) : Prop :=
  match reason with
  | .halted pc =>
    final.machine.registers.pc = pc ∧
      (final.running = false → final.breakpoint = some pc) ∧
      (final.breakpoint = some pc → 0 < config.stallThreshold → 0 < final.instructionsPerPoll →
        final.frozenPolls < final.polls → final.running = false)
  | _ => final.running = false

namespace Action

variable {session next : Session} {target simulator after final : Simulator} {machine : Machine}
  {address : UInt32} {armed : SoftwareBreakpoint} {place : Option UInt32} {software : Bool}
  {reason : StopReason} {count : Nat} {pc : UInt16}

/-! Arming. -/

theorem placeMeanwhile_running (quiet : simulator.pending = [])
    (led : (placeMeanwhile address).through session simulator = ((.ok armed, next), after)) :
    after.running = true := by
  rw [placeMeanwhile, bind_eq_ok] at led
  obtain ⟨_, _, halted, halting, led⟩ := led
  obtain ⟨rfl, rfl⟩ := setRunning_eq_ok quiet halting
  rw [bind_eq_ok] at led
  obtain ⟨placed, _, held, placing, led⟩ := led
  have lasting := Simulator.lasting_stopped simulator.machine
  have still : ({ simulator with running := false } : Simulator).pending = [] := quiet
  rcases placeBreakpoint_lasting lasting still ⟨rfl, rfl⟩ placing with
    ⟨failure, impossible, -⟩ | ⟨seen, -, drained, -, -, rfl⟩
  · simp at impossible
  rw [bind_eq_ok] at led
  obtain ⟨_, _, resumed, resuming, led⟩ := led
  obtain ⟨rfl, rfl⟩ := setRunning_eq_ok (by exact drained) resuming
  rw [through_pure] at led
  cases led
  rfl

theorem setSoftwareBreakpoint_running (quiet : target.pending = [])
    (stopped : target.running = false)
    (led : (setSoftwareBreakpoint address).through session target = ((.ok armed, next), final)) :
    final.running = !decide session.config.RecognisesStop := by
  rw [setSoftwareBreakpoint_eq, bind_eq_ok] at led
  obtain ⟨answer, _, sampled, sampling, led⟩ := led
  obtain ⟨rfl, same, waiting⟩ := performs_isStopped.eq_ok ⟨quiet, stopped, rfl⟩ sampling
  by_cases recognised : session.config.RecognisesStop
  · rw [decide_eq_true recognised]
    rw [if_pos (decide_eq_true recognised)] at led
    have lasting := Simulator.lasting_stopped sampled.machine
    rcases placeBreakpoint_lasting lasting waiting.quiet ⟨waiting.stopped, rfl⟩ led with
      ⟨failure, impossible, -⟩ | ⟨seen, ⟨still, -⟩, -, -, -, rfl⟩
    · simp at impossible
    · exact still
  · rw [decide_eq_false recognised]
    rw [if_neg (by simpa using recognised)] at led
    exact placeMeanwhile_running waiting.quiet led

/-- Arming on a stopped processor changes no register and no byte outside the patch, and leaves it
stopped if enough samples are taken to see that it is. With fewer samples than make a stall it is
taken for a running one, which goes on after the patch. -/
theorem setSoftwareBreakpoint_rests (quiet : target.pending = [])
    (stopped : target.running = false)
    (led : (setSoftwareBreakpoint address).through session target = ((.ok armed, next), final)) :
    final.machine.registers = target.machine.registers ∧
      final.machine = armed.patch target.machine ∧
      (session.config.RecognisesStop → final.running = false) ∧
      (session.config.stoppedCheckPolls < session.config.stallThreshold →
        final.running = true) := by
  obtain ⟨-, -, -, image⟩ := setSoftwareBreakpoint_stopped quiet stopped led
  have running := setSoftwareBreakpoint_running quiet stopped led
  refine ⟨image ▸ SoftwareBreakpoint.patch_registers armed target.machine, image, ?_, ?_⟩
  · intro recognises
    rw [running, decide_eq_true recognises]
    rfl
  · intro few
    have unrecognised : ¬ session.config.RecognisesStop := by
      rw [Config.RecognisesStop]
      omega
    rw [running, decide_eq_false unrecognised]
    rfl

/-- What comes of arming on a stopped processor, with so many samples taken. -/
def arming (samples : Nat) : (Except Failure SoftwareBreakpoint × Session) × Simulator :=
  (setSoftwareBreakpoint 0x2100).through { config := { stoppedCheckPolls := samples } }
    (.loaded 0x01FF [0xE8])

theorem arming_eq {samples : Nat} (chosen : samples = 2 ∨ samples = 6) : arming samples =
    ((.ok (.armedOn (Simulator.loaded 0x01FF [0xE8]).machine 0x2100), (arming samples).1.2),
      (arming samples).2) := by
  apply eq_of_toOption
  rcases chosen with rfl | rfl <;> decide +kernel

theorem setSoftwareBreakpoint_rests_six :
    (arming 6).2.running = false ∧ (arming 2).2.running = true := by
  obtain ⟨-, -, rests, -⟩ := setSoftwareBreakpoint_rests rfl rfl (arming_eq (.inr rfl))
  obtain ⟨-, -, -, starts⟩ := setSoftwareBreakpoint_rests rfl rfl (arming_eq (.inl rfl))
  exact ⟨rests (by decide), starts (by decide)⟩

theorem setSoftwareBreakpoint_resumes_stopped :
    ¬ ∀ (session next : Session) (target final : Simulator) (address : UInt32)
      (armed : SoftwareBreakpoint), target.Ready → target.running = false →
      (setSoftwareBreakpoint address).through session target = ((.ok armed, next), final) →
      final.running = false ∧ final.machine.registers = target.machine.registers := by
  intro rests
  have led := arming_eq (.inl rfl)
  obtain ⟨stopped, -⟩ := rests _ _ _ _ _ _ ⟨rfl, rfl⟩ rfl led
  rw [setSoftwareBreakpoint_running rfl rfl led] at stopped
  exact absurd stopped (by decide)

/-! Stepping. -/

theorem step_eq_ok (paused : simulator.Paused machine)
    (led : (step count).through session simulator = ((.ok (.completed pc), next), after)) :
    after.machine = execute^[count] machine := by
  rw [step, command_eq_ok, through_bind_of_ok (through_enter _ _ _)] at led
  exact (stepTimes_eq_ok paused.asked led).1.holds

theorem rounds_of_singles (start : Machine) (count : Nat) :
    Rounds execute (fun _ moves => moves = 1) start (List.replicate count 1) := by
  induction count generalizing start with
  | zero => exact .none start
  | succ count ih => exact .more rfl (ih _)

theorem step_completes (ready : target.Ready) (stopped : target.running = false)
    (unwilling : target.cancelAt = none) (legible : session.Legible target.machine)
    (count : Nat) :
    ∃ last final, (step count).through session target =
        ((.ok (.completed final.machine.registers.pc), last), final) ∧
      final.machine = execute^[count] target.machine := by
  have single {session : Session} {machine : Machine} {moves : Nat} (one : moves = 1) :
      Takes .single oneInstruction session machine moves true session :=
    one ▸ takes_singleStep.bind_succ (takes_pure true)
  have rounds := rounds_of_singles target.machine count
  obtain ⟨final, led, moved, -⟩ := command_of_rounds ready stopped unwilling legible single rounds
  rw [List.length_replicate, ← stepTimes_eq_repeatStep] at led
  rw [rounds.sum_eq_length, List.length_replicate] at moved
  exact ⟨_, final, led, moved⟩

/-! Continuing. -/

theorem prepareTarget_quiet {value : Unit} (quiet : simulator.pending = [])
    (led : (prepareTarget place software).through session simulator =
      ((.ok value, next), after)) :
    next.config = session.config ∧ after.pending = [] := by
  cases place with
  | none =>
    rw [prepareTarget, through_pure] at led
    cases led
    exact ⟨rfl, quiet⟩
  | some address =>
    cases software with
    | true =>
      obtain ⟨seen, -, rfl, drained, -⟩ := prepareTarget_eq_ok quiet led
      exact ⟨rfl, drained⟩
    | false =>
      have silent : (Command.setBreakpoint address.toUInt16).IsSilent := trivial
      obtain ⟨rfl, rfl⟩ := tell_eq_ok silent quiet led
      exact ⟨rfl, quiet⟩

theorem stalled_quiet (quiet : simulator.pending = [])
    (here : pc = simulator.machine.registers.pc)
    (led : (stalled pc).through session simulator = ((.ok reason, next), final)) :
    final.pending = [] ∧ ((reason = .halted pc ∧ final = simulator) ∨
      ((∀ other, reason ≠ .halted other) ∧ final.running = false)) := by
  cases slot : session.breakpoint with
  | some armed =>
    have ending := stalled_ending quiet slot here led
    subst here
    generalize next.breakpoint = held at ending
    cases ending with
    | hit inside => exact ⟨quiet, .inr ⟨fun _ => StopReason.noConfusion, rfl⟩⟩
    | halted outside => exact ⟨quiet, .inl ⟨rfl, rfl⟩⟩
    | cancelled => exact ⟨quiet, .inr ⟨fun _ => StopReason.noConfusion, rfl⟩⟩
  | none =>
    rw [stalled, through_bind_of_ok (through_get _ _), slot,
      through_bind_of_ok (through_enter _ _ _)] at led
    cases led
    exact ⟨quiet, .inl ⟨rfl, rfl⟩⟩

theorem leaves_of_running {config : Config} (other : ∀ pc, reason ≠ .halted pc)
    (stopped : final.running = false) : reason.Leaves config final := by
  cases reason with
  | halted pc => exact absurd rfl (other pc)
  | _ => exact stopped

theorem leaves_of_polled {config : Config} {count : StallCount}
    (halts : simulator.HaltsAtBreakpoint)
    (recent : ∀ pc, count.last = some pc → simulator.machine.registers.pc = pc)
    (here : pc = simulator.polled.machine.registers.pc)
    (enough : config.stallThreshold ≤ (count.observe pc).same) :
    (StopReason.halted pc).Leaves config simulator.polled := by
  refine ⟨here.symm, ?_, ?_⟩
  · rw [here]
    exact halts.polled
  · intro armed repeated busy thawed
    -- The sample before the poll was the same, so the slice began at the breakpoint.
    have before : count.last = some pc := by
      by_contra first
      rw [StallCount.observe, if_neg first] at enough
      exact absurd enough (Nat.not_le.mpr repeated)
    obtain ⟨same, slice, frozen, polls⟩ := simulator.polled_settings
    rw [same, ← recent pc before] at armed
    rw [slice] at busy
    rw [frozen, polls] at thawed
    exact Simulator.polled_halts armed busy (Nat.le_of_lt_succ thawed)

theorem awaitStall_leaves {left : Nat} {count : StallCount} (quiet : simulator.pending = [])
    (halts : simulator.HaltsAtBreakpoint)
    (recent : ∀ pc, count.last = some pc → simulator.machine.registers.pc = pc)
    (led : (awaitStall left count).through session simulator = ((.ok reason, next), final)) :
    final.pending = [] ∧ reason.Leaves session.config final := by
  induction left generalizing session simulator count with
  | zero =>
    rw [awaitStall, through_throw] at led
    simp at led
  | succ left ih =>
    rw [awaitStall, through_bind_of_ok (through_isCancelled _ _)] at led
    have drained : (Transport.interrupted simulator).2.pending = [] := quiet
    have asked : (Transport.interrupted simulator).2.HaltsAtBreakpoint := halts
    split at led
    · rw [abort, bind_eq_ok] at led
      obtain ⟨_, _, halted, halting, led⟩ := led
      obtain ⟨rfl, rfl⟩ := setRunning_eq_ok drained halting
      rw [through_bind_of_ok (through_enter _ _ _), through_pure] at led
      cases led
      exact ⟨quiet, rfl⟩
    · rw [through_bind_of_ok (through_pause _ _), through_bind_of_ok (through_get _ _),
        bind_eq_ok] at led
      obtain ⟨registers, _, _, read, led⟩ := led
      obtain ⟨rfl, rfl, shown⟩ := readRegisters_eq_ok drained read
      have here : registers.pc =
          (Transport.interrupted simulator).2.polled.machine.registers.pc := by
        rw [shown]
      simp only at led
      split at led
      · have sampled : ∀ pc, (count.observe registers.pc).last = some pc →
            (Transport.interrupted simulator).2.polled.machine.registers.pc = pc := by
          intro pc last
          rw [StallCount.observe_last, here] at last
          exact Option.some.inj last
        have later := ih rfl asked.polled sampled led
        exact later
      · rename_i enough
        obtain ⟨left, ⟨rfl, rfl⟩ | ⟨other, stopped⟩⟩ := stalled_quiet rfl here led
        · exact ⟨left, leaves_of_polled asked recent here (Nat.not_lt.mp enough)⟩
        · exact ⟨left, leaves_of_running other stopped⟩

/-- A continue leaves the processor stopped after a hit and after a cancellation. It takes a stall
elsewhere for a halt and sends nothing, so the processor is then out of run mode only if it has
stopped at its hardware breakpoint. Out of run mode no poll moves the machine, and steps execute
exactly as many instructions as are asked for. -/
theorem continueExecution_leaves {rounds : Nat} (quiet : target.pending = [])
    (led : (continueExecution rounds place software).through session target =
      ((.ok reason, next), final)) :
    reason.Leaves session.config final ∧
      (final.running = false →
        (∀ polls, (Simulator.polled^[polls] final).machine = final.machine) ∧
        (∀ count pc last ended, (step count).through next final =
          ((.ok (.completed pc), last), ended) → ended.machine = execute^[count] final.machine) ∧
        (final.failOn = none → final.cancelAt = none → next.Legible final.machine →
          ∀ count, ∃ last ended, (step count).through next final =
            ((.ok (.completed ended.machine.registers.pc), last), ended) ∧
              ended.machine = execute^[count] final.machine)) := by
  rw [continueExecution, command_eq_ok, runToStall, bind_eq_ok] at led
  obtain ⟨_, prepared, remote, preparing, led⟩ := led
  have asked : (Transport.interrupted target).2.pending = [] := quiet
  obtain ⟨settings, drained⟩ := prepareTarget_quiet asked preparing
  rw [bind_eq_ok] at led
  obtain ⟨_, _, started, starting, led⟩ := led
  obtain ⟨rfl, rfl⟩ := setRunning_eq_ok drained starting
  rw [through_bind_of_ok (through_get _ _), through_bind_of_ok (through_enter _ _ _)] at led
  have runs : ({ remote with running := true } : Simulator).HaltsAtBreakpoint :=
    fun stopped => absurd stopped (by simp)
  obtain ⟨left, leaves⟩ := awaitStall_leaves (by exact drained) runs
    (fun pc last => absurd last (by simp)) led
  refine ⟨settings ▸ leaves, fun stopped => ?_⟩
  have paused : final.Paused final.machine := ⟨left, stopped, rfl⟩
  refine ⟨fun polls => (paused.polls polls).holds, ?_, ?_⟩
  · exact fun count pc last ended stepped => step_eq_ok paused stepped
  · exact fun working unwilling legible count =>
      step_completes ⟨left, working⟩ stopped unwilling legible count

/-- What comes of a continue to a hardware breakpoint behind the first instruction. -/
def halting : (Except Failure StopReason × Session) × Simulator :=
  (continueExecution 20 (some 0x2001) false).through {} (.loaded 0x01FF [0xE8, 0xE8])

theorem halting_ends : halting.1.1.toOption = some (.halted 0x2001) ∧
    halting.2.breakpoint = some 0x2001 ∧ 0 < halting.2.instructionsPerPoll ∧
    halting.2.frozenPolls < halting.2.polls := by
  decide +kernel

/-- At a hardware breakpoint the processor has stopped by itself, and steps go on from there one by
one. -/
theorem continueExecution_leaves_breakpoint :
    halting = ((.ok (.halted 0x2001), halting.1.2), halting.2) ∧ halting.2.running = false ∧
      ∀ count pc last ended,
        (step count).through halting.1.2 halting.2 = ((.ok (.completed pc), last), ended) →
          ended.machine = execute^[count] halting.2.machine := by
  obtain ⟨halted, here, busy, thawed⟩ := halting_ends
  have led := eq_of_toOption halted
  obtain ⟨⟨-, -, stops⟩, resting⟩ := continueExecution_leaves rfl led
  have stopped := stops here (by decide) busy thawed
  exact ⟨led, stopped, (resting stopped).2.1⟩

/-- A jump to itself is told as a halt, and the processor is left in run mode. -/
theorem continueExecution_leaves_running :
    ¬ ∀ (session next : Session) (target final : Simulator) (rounds : Nat)
      (place : Option UInt32) (software : Bool) (reason : StopReason), target.Ready →
      (continueExecution rounds place software).through session target =
        ((.ok reason, next), final) →
      final.running = false := by
  intro stops
  have ends : ((continueExecution 10 none false).through {}
        (Simulator.loaded 0x01FF [0x4C, 0x00, 0x20])).1.1.toOption = some (.halted 0x2000) ∧
      ((continueExecution 10 none false).through {}
        (Simulator.loaded 0x01FF [0x4C, 0x00, 0x20])).2.running = true := by
    decide +kernel
  have stopped := stops _ _ _ _ _ _ _ _ ⟨rfl, rfl⟩ (eq_of_toOption ends.1)
  rw [ends.2] at stopped
  exact absurd stopped (by decide)

end Action

end RemoteDebugger
