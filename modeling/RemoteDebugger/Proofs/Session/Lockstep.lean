import RemoteDebugger.Proofs.Session.Usage

/-!
Lockstep. The serial protocol is half-duplex: a command may be sent only when every reply of the
one before it was taken. A link that reads three lines for one value takes every reply that the
simulated monitor gives, whether the exchange succeeds or not, so the lines of a session always meet
a monitor with no reply waiting, and each of them is a command that the monitor knows.
-/

set_option autoImplicit false

namespace RemoteDebugger

namespace Simulator

variable {simulator : Simulator} {command : Command} {link : Link}

/-- No reply waits, and the debugger has kept to the protocol so far. -/
structure InStep (simulator : Simulator) : Prop where
  quiet : simulator.pending = []
  sound : simulator.violation = none

theorem elapse_violation (simulator : Simulator) :
    simulator.elapse.violation = simulator.violation :=
  elapse_induction (fun other => other.violation = simulator.violation)
    (fun _ same _ _ => same) (fun _ same _ => same) rfl

theorem InStep.polled (inStep : simulator.InStep) : simulator.polled.InStep :=
  ⟨rfl, (elapse_violation simulator).trans inStep.sound⟩

theorem InStep.handle (inStep : simulator.InStep) (silent : command.IsSilent) :
    (simulator.handle command).InStep := by
  cases command <;> first | exact silent.elim | exact ⟨inStep.quiet, inStep.sound⟩

theorem InStep.interrupted (inStep : simulator.InStep) :
    (Transport.interrupted simulator).2.InStep :=
  ⟨inStep.quiet, inStep.sound⟩

theorem through_readRegisters_snd (quiet : simulator.pending = []) (patient : 3 ≤ link.reads) :
    (link.readRegisters.through simulator).2 = simulator ∨
      (link.readRegisters.through simulator).2 = simulator.polled := by
  by_cases failing : simulator.failOn = some Command.readRegisters.line
  · rw [Link.readRegisters, through_ask_failing quiet failing]
    exact .inl rfl
  · apply Or.inr
    cases shown : Text.words simulator.polled.machine.registers.flags with
    | nil =>
      rw [through_readRegisters_of_blank quiet failing shown, List.drop_of_length_le patient]
      rfl
    | cons flags others =>
      rw [through_readRegisters quiet failing (congrArg List.head? shown), if_pos patient]

theorem through_readWindow_snd (quiet : simulator.pending = []) (patient : 2 ≤ link.reads)
    (address : Address) : ((link.readWindow address).through simulator).2 = simulator := by
  by_cases failing : simulator.failOn = some (Command.readWindow address.physical).line
  · rw [Link.readWindow, through_ask_failing quiet failing]
  · rw [through_readWindow quiet failing, if_pos patient]

theorem through_readBulk_snd (quiet : simulator.pending = []) (patient : 2 ≤ link.reads)
    (address : Address) : ((link.readBulk address).through simulator).2 = simulator := by
  by_cases failing : simulator.failOn = some (Command.readBulk address.physical).line
  · rw [Link.readBulk, Exchange.through_bind, through_ask_failing quiet failing]
  · rw [through_readBulk quiet failing patient]

end Simulator

namespace Link

variable {α : Type} {link : Link}

/-- The link reads at least three lines for one value, and the monitor is in step. -/
structure Lockstep (link : Link) (simulator : Simulator) : Prop where
  patient : 3 ≤ link.reads
  inStep : simulator.InStep

private theorem keeps_of_question {exchange : Exchange α}
    (led : ∀ simulator, link.Lockstep simulator → (exchange.through simulator).2.InStep)
    (asked : ∀ simulator : Simulator, ∃ line, exchange.transcript simulator = [⟨line, simulator⟩]) :
    exchange.Keeps link.Lockstep fun sending => sending.remote.InStep := by
  intro simulator lockstep
  refine ⟨⟨lockstep.patient, led simulator lockstep⟩, ?_⟩
  intro sending sent
  obtain ⟨line, only⟩ := asked simulator
  rw [only, List.mem_singleton] at sent
  rw [sent]
  exact lockstep.inStep

/-- A patient link takes every reply of every question, so it never speaks out of turn. -/
theorem invariant_lockstep (link : Link) :
    link.Invariant link.Lockstep fun sending => sending.remote.InStep where
  readRegisters := by
    apply keeps_of_question
    · intro simulator lockstep
      rcases Simulator.through_readRegisters_snd lockstep.inStep.quiet lockstep.patient with
        same | polled
      · rw [same]
        exact lockstep.inStep
      · rw [polled]
        exact lockstep.inStep.polled
    · intro simulator
      exact ⟨_, link.transcript_ask _ _ simulator⟩
  readWindow := by
    intro address
    apply keeps_of_question
    · intro simulator lockstep
      have patient : 2 ≤ link.reads := Nat.le_of_succ_le lockstep.patient
      rw [Simulator.through_readWindow_snd lockstep.inStep.quiet patient]
      exact lockstep.inStep
    · intro simulator
      exact ⟨_, link.transcript_ask _ _ simulator⟩
  readBulk := by
    intro address
    apply keeps_of_question
    · intro simulator lockstep
      have patient : 2 ≤ link.reads := Nat.le_of_succ_le lockstep.patient
      rw [Simulator.through_readBulk_snd lockstep.inStep.quiet patient]
      exact lockstep.inStep
    · intro simulator
      exact ⟨_, link.transcript_readBulk simulator address⟩
  tell := by
    intro command silent
    apply keeps_of_question
    · intro simulator lockstep
      rcases Simulator.through_tell_eq_or link silent lockstep.inStep.quiet with
        ⟨-, failed⟩ | ⟨-, told⟩
      · rw [failed]
        exact lockstep.inStep
      · rw [told]
        have cut : command.cut.IsSilent := by cases command <;> exact silent
        exact lockstep.inStep.handle cut
    · intro simulator
      exact ⟨_, link.transcript_ask _ _ simulator⟩

end Link

/-- Lockstep has nothing to do with the execution state, so it lasts within execution commands. -/
theorem Session.runningInvariant_lockstep :
    Session.RunningInvariant (fun session => session.link.Lockstep)
      fun sending => sending.remote.InStep where
  link session := session.link.invariant_lockstep
  asked _ _ lockstep := ⟨lockstep.patient, lockstep.inStep.interrupted⟩
  breakpoint _ _ _ lockstep := lockstep
  cancelled _ _ _ lockstep := lockstep
  entered _ _ _ lockstep := lockstep

theorem Operation.keeps_lockstep {α : Type} (operation : Operation α) :
    operation.action.Keeps (fun session => session.link.Lockstep)
      fun sending => sending.remote.InStep := by
  apply Session.runningInvariant_lockstep.operation
  · intro command
    apply Session.runningInvariant_lockstep.action
    · intro session simulator lockstep
      exact ⟨lockstep.patient, lockstep.inStep.interrupted⟩
    · intro session simulator lockstep
      exact lockstep
  · intro direction
    apply Action.keeps_of_silent
    · intro session simulator
      rfl
    · intro session simulator lockstep
      exact lockstep

/-- Every line of every use of a session meets the simulated monitor with no reply waiting, whatever
succeeds, fails or is cancelled, and all replies are taken in the end. No line breaks the protocol:
none comes too early, and none is unknown. -/
theorem Usage.in_lockstep (usage : Usage) {session : Session} {simulator : Simulator}
    (patient : 3 ≤ session.config.linkRetryLimit) (quiet : simulator.pending = [])
    (sound : simulator.violation = none) :
    (∀ sending ∈ usage.transcript session simulator,
        sending.remote.pending = [] ∧ sending.remote.violation = none) ∧
      (usage.through session simulator).2.pending = [] ∧
      (usage.through session simulator).2.violation = none := by
  have lockstep : session.link.Lockstep simulator :=
    ⟨Nat.le_trans patient (Nat.le_max_left _ _), quiet, sound⟩
  obtain ⟨⟨-, inStep⟩, sent⟩ := Usage.keeps Operation.keeps_lockstep usage lockstep
  refine ⟨?_, inStep.quiet, inStep.sound⟩
  intro sending member
  exact ⟨(sent sending member).quiet, (sent sending member).sound⟩

/-- A bulk read from a monitor without flags, steps that fail for want of them, and a stop that
fails with the device. -/
theorem Usage.in_lockstep_blank :
    let simulator : Simulator :=
      { machine := { registers := { flags := "  ".toList } }, failOn := some "t1".toList }
    let usage : Usage := [⟨_, .link (.readRange (.cpu 0xFFF0) 300)⟩, ⟨_, .execution (.step 2)⟩,
      ⟨_, .link (.setRunning false)⟩]
    (∀ sending ∈ usage.transcript {} simulator,
        sending.remote.pending = [] ∧ sending.remote.violation = none) ∧
      (usage.through {} simulator).2.pending = [] ∧
      (usage.through {} simulator).2.violation = none := by
  intro simulator usage
  exact in_lockstep usage (by decide) rfl rfl

end RemoteDebugger
