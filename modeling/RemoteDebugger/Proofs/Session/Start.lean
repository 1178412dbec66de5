import RemoteDebugger.Proofs.Session.Footprint
import RemoteDebugger.Proofs.Session.Transcript
import RemoteDebugger.Proofs.Session.Transparency

/-!
Where a continue starts the processor. Every start that a continue to a software breakpoint sends to
a stopped monitor meets the machine moved off the breakpoint by at most one instruction, with the
patch in place. One instruction need not lead out of the patch, and a program counter that is inside
it from the beginning is not looked for, so the operand bytes of the self-jump may be what the
processor executes first.
-/

set_option autoImplicit false

namespace RemoteDebugger

/-- The program counter is inside a patch at an address, behind its first byte. -/
def Machine.Inside (machine : Machine) (address : UInt16) : Prop :=
  machine.registers.pc = address + 1 ∨ machine.registers.pc = address + 2

instance (machine : Machine) (address : UInt16) : Decidable (machine.Inside address) :=
  inferInstanceAs (Decidable (_ ∨ _))

theorem Machine.inside_steppedOff (machine : Machine) (address : UInt16) :
    (machine.steppedOff address).Inside address ↔
      machine.Inside address ∨
        (machine.registers.pc = address ∧ machine.execute.Inside address) := by
  rw [steppedOff]
  split
  · rename_i here
    have outside : ¬ machine.Inside address := by
      rw [Inside, here]
      simp
    constructor
    · exact fun leads => .inr ⟨here, leads⟩
    · rintro (inside | ⟨-, leads⟩)
      · exact absurd inside outside
      · exact leads
  · rename_i away
    constructor
    · exact .inl
    · rintro (inside | ⟨here, -⟩)
      · exact inside
      · exact absurd here away

/-- The machine moved off an address and patched there. -/
def Machine.prepared (machine : Machine) (address : UInt16) : Machine :=
  (SoftwareBreakpoint.armedOn (machine.steppedOff address) address.toUInt32).patch
    (machine.steppedOff address)

theorem Machine.inside_prepared (machine : Machine) (address : UInt16) :
    (machine.prepared address).Inside address ↔
      machine.Inside address ∨
        (machine.registers.pc = address ∧ machine.execute.Inside address) := by
  rw [← inside_steppedOff, prepared, Inside, SoftwareBreakpoint.patch_registers]
  exact Iff.rfl

/-- The line lets the processor run. -/
def Sending.Starts {τ : Type} (sending : Sending τ) : Prop :=
  sending.line = (Command.setRunning true).line

instance {τ : Type} (sending : Sending τ) : Decidable sending.Starts :=
  inferInstanceAs (Decidable (_ = _))

namespace Action

variable {session : Session} {simulator target : Simulator} {address : UInt16}
  {sending : Sending Simulator}

/-- An action that never lets the processor run. -/
abbrev NeverStarts {α : Type} (action : Action α) : Prop :=
  action.NeverSends (.setRunning true)

theorem neverStarts_ask {α : Type} {command : Command} (other : command ≠ .setRunning true)
    (read? : Text → Option α) : (onLink (·.ask command read?)).NeverStarts :=
  neverSends_ask (Command.line_ne_start other) read?

theorem neverStarts_readRegisters : (onLink (·.readRegisters)).NeverStarts :=
  neverStarts_ask Command.noConfusion _

theorem neverStarts_readWindow (place : Address) : (onLink (·.readWindow place)).NeverStarts :=
  neverStarts_ask Command.noConfusion _

theorem neverStarts_halt : (onLink (·.setRunning false)).NeverStarts :=
  neverStarts_ask (by simp) _

theorem neverStarts_singleStep : (onLink (·.singleStep)).NeverStarts :=
  neverStarts_ask Command.noConfusion _

theorem neverStarts_writeMemory {place : Address} {bytes : List UInt8} (nonempty : bytes ≠ [])
    (few : bytes.length ≤ Link.writeLimit) :
    (onLink (·.writeMemory place bytes)).NeverStarts := by
  rw [onLink_writeMemory nonempty few]
  exact neverStarts_ask Command.noConfusion _

theorem neverStarts_seemsStopped (left : Nat) (count : StallCount) :
    (seemsStopped left count).NeverStarts := by
  induction left generalizing count with
  | zero => exact neverSends_pure false
  | succ left ih =>
    refine neverSends_get.bind fun session => neverStarts_readRegisters.bind fun registers => ?_
    simp only
    split
    · exact neverSends_pure true
    · exact neverSends_pause.bind fun _ => ih _

theorem neverStarts_isStopped : isStopped.NeverStarts :=
  neverSends_get.bind fun _ => neverStarts_seemsStopped _ _

theorem neverStarts_placeBreakpoint (place : UInt32) : (placeBreakpoint place).NeverStarts :=
  neverStarts_readRegisters.bind fun _ => (neverStarts_readWindow _).bind fun _ =>
    (neverStarts_writeMemory (SoftwareBreakpoint.wedge_ne_nil _)
      (SoftwareBreakpoint.wedge_short _)).bind fun _ =>
        (neverSends_modify _).bind fun _ => neverSends_pure _

theorem neverStarts_stepOff (address : UInt16) : (stepOff address).NeverStarts := by
  refine neverStarts_readRegisters.bind fun registers => ?_
  split
  · exact neverStarts_singleStep
  · exact neverSends_pure _

theorem neverStarts_clearSoftwareBreakpoint : clearSoftwareBreakpoint.NeverStarts := by
  refine neverSends_get.bind fun session => ?_
  split
  · exact neverSends_pure none
  · rename_i armed _
    exact (neverSends_set _).bind fun _ => neverStarts_halt.bind fun _ =>
      (neverStarts_writeMemory armed.saved_ne_nil armed.saved_short).bind fun _ =>
        neverSends_pure _

theorem neverStarts_stalled (pc : UInt16) : (stalled pc).NeverStarts := by
  refine neverSends_get.bind fun session => (neverSends_modify _).bind fun _ => ?_
  split
  · exact neverStarts_clearSoftwareBreakpoint.bind fun _ => neverSends_pure _
  · exact neverSends_pure _

theorem neverStarts_abort : abort.NeverStarts :=
  neverStarts_halt.bind fun _ => (neverSends_modify _).bind fun _ => neverSends_pure _

theorem neverStarts_awaitStall (left : Nat) (count : StallCount) :
    (awaitStall left count).NeverStarts := by
  induction left generalizing count with
  | zero => exact neverSends_throw .unfinished
  | succ left ih =>
    refine neverSends_isCancelled.bind fun cancelled => ?_
    split
    · exact neverStarts_abort
    · refine neverSends_pause.bind fun _ => neverSends_get.bind fun session =>
        neverStarts_readRegisters.bind fun registers => ?_
      simp only
      split
      · exact ih _
      · exact neverStarts_stalled _

theorem mem_transcript_start {τ : Type} [Transport τ] {remote : τ} {sending : Sending τ} :
    sending ∈ (onLink (·.setRunning true)).transcript session remote ↔
      sending = ⟨(Command.setRunning true).line, remote⟩ := by
  rw [transcript_onLink, Link.setRunning, Link.tell, Link.transcript_ask, List.mem_singleton]

theorem placeMeanwhile_starts {place : UInt32} {machine : Machine}
    (quiet : simulator.pending = []) (stopped : simulator.running = false)
    (holds : simulator.machine = machine)
    (sent : sending ∈ (placeMeanwhile place).transcript session simulator)
    (starts : sending.Starts) :
    sending.remote.machine = (SoftwareBreakpoint.armedOn machine place).patch machine := by
  have lasting := Simulator.lasting_stopped machine
  rw [placeMeanwhile] at sent
  rcases mem_transcript_bind.mp sent with sent | ⟨_, _, halted, halting, sent⟩
  · exact absurd starts (neverStarts_halt _ _ sending sent)
  obtain ⟨rfl, rfl⟩ := setRunning_eq_ok quiet halting
  have drained : ({ simulator with running := false } : Simulator).pending = [] := quiet
  rcases mem_transcript_bind.mp sent with sent | ⟨armed, noted, placed, placing, sent⟩
  · exact absurd starts (neverStarts_placeBreakpoint place _ _ sending sent)
  rcases placeBreakpoint_lasting lasting drained (lasting.halted _ ⟨stopped, holds⟩) placing with
    ⟨failure, impossible, -⟩ | ⟨seen, ⟨-, unmoved⟩, -, -, -, rfl⟩
  · simp at impossible
  rcases mem_transcript_bind.mp sent with sent | ⟨_, _, _, _, sent⟩
  · rw [mem_transcript_start.mp sent, ← unmoved]
  · simp at sent

theorem setSoftwareBreakpoint_starts {place : UInt32} {machine : Machine}
    (quiet : simulator.pending = []) (stopped : simulator.running = false)
    (holds : simulator.machine = machine)
    (sent : sending ∈ (setSoftwareBreakpoint place).transcript session simulator)
    (starts : sending.Starts) :
    sending.remote.machine = (SoftwareBreakpoint.armedOn machine place).patch machine := by
  rw [setSoftwareBreakpoint_eq] at sent
  rcases mem_transcript_bind.mp sent with sampled | ⟨seeming, _, after, sampling, sent⟩
  · exact absurd starts (neverStarts_isStopped _ _ sending sampled)
  obtain ⟨rfl, ⟨halted, unmoved⟩, drained⟩ :=
    isStopped_lasting (Simulator.lasting_stopped machine) quiet ⟨stopped, holds⟩ sampling
  cases seeming with
  | true =>
    rw [if_pos rfl] at sent
    exact absurd starts (neverStarts_placeBreakpoint place _ _ sending sent)
  | false =>
    rw [if_neg Bool.false_ne_true] at sent
    exact placeMeanwhile_starts (drained false rfl) halted unmoved sent starts

theorem prepareTarget_starts (quiet : simulator.pending = []) (stopped : simulator.running = false)
    (sent : sending ∈ (prepareTarget (some address.toUInt32) true).transcript session simulator)
    (starts : sending.Starts) :
    sending.remote.machine = simulator.machine.prepared address := by
  rw [prepareTarget_soft, UInt16.toUInt16_toUInt32] at sent
  rcases mem_transcript_bind.mp sent with sent | ⟨_, moving, moved, led, sent⟩
  · exact absurd starts (neverStarts_stepOff address _ _ sending sent)
  obtain ⟨-, drained, halted, holds⟩ := stepOff_stopped quiet stopped led
  rcases mem_transcript_bind.mp sent with sent | ⟨_, _, _, _, sent⟩
  · exact setSoftwareBreakpoint_starts drained halted holds sent starts
  · simp at sent

/-- A start comes from arming, if the stopped processor was taken for running, or from the continue
itself. No instruction is executed in between, so both meet the same machine. -/
theorem runToStall_starts {rounds : Nat} (quiet : simulator.pending = [])
    (stopped : simulator.running = false)
    (sent : sending ∈ (runToStall rounds (some address.toUInt32) true).transcript session simulator)
    (starts : sending.Starts) :
    sending.remote.machine = simulator.machine.prepared address := by
  rw [runToStall] at sent
  rcases mem_transcript_bind.mp sent with sent | ⟨_, _, prepared, preparing, sent⟩
  · exact prepareTarget_starts quiet stopped sent starts
  obtain ⟨armed, rfl, -, -, patched⟩ := prepareTarget_stopped quiet stopped preparing
  rw [UInt16.toUInt16_toUInt32] at patched
  rcases mem_transcript_bind.mp sent with sent | ⟨_, _, _, _, sent⟩
  · rw [mem_transcript_start.mp sent]
    exact patched
  · have waiting : Action.NeverStarts (do
        let session ← get
        enter (if session.breakpoint.isSome then .awaitingStall else .running)
        awaitStall rounds {}) :=
      neverSends_get.bind fun _ => (neverSends_modify _).bind fun _ => neverStarts_awaitStall _ _
    exact absurd starts (waiting _ _ sending sent)

/-- Every start of a continue to a software breakpoint meets the machine moved off the breakpoint,
with the patch in place. So the processor starts inside the patch if and only if it stood there
before, or stood at the breakpoint with an instruction that leads inside. -/
theorem continueExecution_starts {rounds : Nat} (quiet : target.pending = [])
    (stopped : target.running = false)
    (sent : sending ∈
      (continueExecution rounds (some address.toUInt32) true).transcript session target)
    (starts : sending.Starts) :
    sending.remote.machine = target.machine.prepared address ∧
      (sending.remote.machine.Inside address ↔ target.machine.Inside address ∨
        (target.machine.registers.pc = address ∧ target.machine.execute.Inside address)) := by
  rw [continueExecution, transcript_command] at sent
  have asked : (Transport.interrupted target).2.pending = [] := quiet
  have meets := runToStall_starts asked stopped sent starts
  refine ⟨meets, ?_⟩
  rw [meets]
  exact target.machine.inside_prepared address

/-- A processor that stands at a breakpoint with `JMP $2010` under it starts where that leads. -/
theorem continueExecution_starts_jump :
    ∃ sending ∈ (continueExecution 10 (some (0x2000 : UInt16).toUInt32) true).transcript {}
        (.loaded 0x01FF [0x4C, 0x10, 0x20] : Simulator),
      sending.Starts ∧ ¬ sending.remote.machine.Inside 0x2000 := by
  have sent : ∃ sending ∈ (continueExecution 10 (some (0x2000 : UInt16).toUInt32) true).transcript
      {} (Simulator.loaded 0x01FF [0x4C, 0x10, 0x20]), sending.Starts := by
    decide +kernel
  obtain ⟨sending, sent, starts⟩ := sent
  refine ⟨sending, sent, starts, ?_⟩
  rw [(continueExecution_starts rfl rfl sent starts).2]
  decide +kernel

/-- A processor that stands at `INX` is moved by one byte only, and the patch has three. -/
theorem continueExecution_starts_inside :
    ¬ ∀ (session : Session) (target : Simulator) (address : UInt16) (rounds : Nat),
      target.Ready → target.running = false → target.machine.registers.inHypervisor = false →
      ∀ sending ∈ (continueExecution rounds (some address.toUInt32) true).transcript session target,
        sending.Starts → ¬ sending.remote.machine.Inside address := by
  intro outside
  have entered := outside {} (.loaded 0x01FF [0xE8, 0xE8, 0xE8, 0x4C, 0x00, 0x20]) 0x2000 10
    ⟨rfl, rfl⟩ rfl (by decide +kernel)
  revert entered
  decide +kernel

end Action

end RemoteDebugger
