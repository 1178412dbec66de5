import RemoteDebugger.Proofs.Session.Action
import RemoteDebugger.Proofs.Transport.Simulator

/-!
Arming and clearing the software breakpoint over a simulated monitor. Arming saves the bytes that
are there when it looks and leaves the self-jump in their place, with no instruction executed in
between; while the processor is stopped, polls do not move the machine, so these are the bytes that
were there when it began. Clearing puts saved bytes back.
-/

set_option autoImplicit false

namespace RemoteDebugger

/-- The monitor waits for a command with its processor stopped in a state of the machine. -/
structure Simulator.Resting (machine : Machine) (simulator : Simulator) : Prop where
  ready : simulator.Ready
  stopped : simulator.running = false
  holds : simulator.machine = machine

/-- A property of the monitor that polls keep, and stopping the processor, whichever replies wait and
whether the operator has asked to stop. -/
structure Simulator.Lasting (property : Simulator → Prop) : Prop where
  polled : ∀ simulator, property simulator → property simulator.polled
  halted : ∀ simulator, property simulator → property { simulator with running := false }
  replied : ∀ simulator pending, property simulator → property { simulator with pending }
  asked : ∀ simulator, property simulator → property (Transport.interrupted simulator).2

theorem Simulator.lasting_stopped (machine : Machine) :
    Lasting fun simulator => simulator.running = false ∧ simulator.machine = machine where
  polled simulator := by
    rintro ⟨stopped, rfl⟩
    rw [polled_running, polled_machine, elapse_of_stopped stopped]
    exact ⟨stopped, rfl⟩
  halted _ := fun ⟨_, holds⟩ => ⟨rfl, holds⟩
  replied _ _ := id
  asked _ := id

def SoftwareBreakpoint.armedOn (machine : Machine) (address : UInt32) : SoftwareBreakpoint :=
  let place := patchAddress address machine.registers.inHypervisor
  ⟨place, savedOf (Simulator.window machine place.physical)⟩

/-- The machine with the self-jump of a breakpoint in place. -/
def SoftwareBreakpoint.patch (breakpoint : SoftwareBreakpoint) (machine : Machine) : Machine :=
  machine.writeBytes breakpoint.address.physical (wedge breakpoint.cpuAddress)

theorem SoftwareBreakpoint.getD_savedOf (machine : Machine) (physical : UInt32) {index : Nat}
    (small : index < 3) : (savedOf (Simulator.window machine physical)).toList.getD index 0 =
      machine.read (physical + UInt32.ofNat index) := by
  have inRange : index < 16 := by omega
  simp [savedOf, Simulator.window, small, List.getD_eq_getElem?_getD, Vector.get]
  rfl

theorem SoftwareBreakpoint.length_saved (breakpoint : SoftwareBreakpoint) :
    breakpoint.saved.toList.length = 3 :=
  Vector.length_toList

theorem SoftwareBreakpoint.wedge_ne_nil (address : UInt16) : wedge address ≠ [] :=
  List.cons_ne_nil _ _

theorem SoftwareBreakpoint.wedge_short (address : UInt16) :
    (wedge address).length ≤ Link.writeLimit :=
  Nat.le_of_ble_eq_true rfl

theorem SoftwareBreakpoint.saved_ne_nil (breakpoint : SoftwareBreakpoint) :
    breakpoint.saved.toList ≠ [] := by
  apply List.ne_nil_of_length_pos
  rw [length_saved]
  exact Nat.succ_pos 2

theorem SoftwareBreakpoint.saved_short (breakpoint : SoftwareBreakpoint) :
    breakpoint.saved.toList.length ≤ Link.writeLimit := by
  rw [length_saved]
  exact Nat.le_of_ble_eq_true rfl

theorem SoftwareBreakpoint.patch_armedOn (machine other : Machine) (address : UInt32) :
    (armedOn machine address).patch other =
      other.writeBytes (patchAddress address machine.registers.inHypervisor).physical
        (wedge (patchAddress address machine.registers.inHypervisor).cpuAddress) :=
  rfl

/-- The machine with the saved bytes of a breakpoint put back. -/
def SoftwareBreakpoint.unpatch (breakpoint : SoftwareBreakpoint) (machine : Machine) : Machine :=
  machine.writeBytes breakpoint.address.physical breakpoint.saved.toList

namespace Action

variable {session next : Session} {simulator after : Simulator} {machine : Machine}

theorem readRegisters_eq_ok {registers : Registers} (quiet : simulator.pending = [])
    (led : (onLink (·.readRegisters)).through session simulator =
      ((.ok registers, next), after)) :
    next = session ∧ after = simulator.polled ∧
      registers = { simulator.polled.machine.registers with flags := registers.flags } := by
  obtain ⟨read, same⟩ := onLink_eq_ok.mp led
  exact ⟨same, Simulator.readRegisters_eq_ok quiet read⟩

theorem readWindow_eq_ok {address : Address} {window : Window} (quiet : simulator.pending = [])
    (led : (onLink (·.readWindow address)).through session simulator =
      ((.ok window, next), after)) :
    next = session ∧ after = simulator ∧
      window = Simulator.window simulator.machine address.physical := by
  obtain ⟨read, same⟩ := onLink_eq_ok.mp led
  exact ⟨same, Simulator.readWindow_eq_ok quiet read⟩

theorem tell_eq_ok {command : Command} {value : Unit} (silent : command.IsSilent)
    (quiet : simulator.pending = [])
    (led : (onLink (·.tell command)).through session simulator = ((.ok value, next), after)) :
    next = session ∧ after = simulator.handle command.cut := by
  obtain ⟨told, same⟩ := onLink_eq_ok.mp led
  refine ⟨same, ?_⟩
  rcases Simulator.through_tell_eq_or session.link silent quiet with ⟨-, lost⟩ | ⟨-, obeyed⟩
  · rw [lost] at told
    simp at told
  · rw [obeyed] at told
    exact (Prod.mk.inj told).2.symm

theorem setRunning_eq_ok {running : Bool} {value : Unit} (quiet : simulator.pending = [])
    (led : (onLink (·.setRunning running)).through session simulator =
      ((.ok value, next), after)) :
    next = session ∧ after = { simulator with running } :=
  have silent : (Command.setRunning running).IsSilent := trivial
  tell_eq_ok silent quiet led

theorem singleStep_eq_ok {value : Unit} (quiet : simulator.pending = [])
    (led : (onLink (·.singleStep)).through session simulator = ((.ok value, next), after)) :
    next = session ∧ after = { simulator with machine := simulator.machine.execute } :=
  have silent : Command.singleStep.IsSilent := trivial
  tell_eq_ok silent quiet led

theorem tell_eq_error {command : Command} {failure : Failure} (silent : command.IsSilent)
    (quiet : simulator.pending = [])
    (led : (onLink (·.tell command)).through session simulator =
      ((.error failure, next), after)) :
    next = session ∧ after = simulator := by
  rw [through_onLink] at led
  rcases Simulator.through_tell_eq_or session.link silent quiet with ⟨-, lost⟩ | ⟨-, obeyed⟩
  · rw [lost] at led
    cases led
    exact ⟨rfl, rfl⟩
  · rw [obeyed] at led
    cases led

theorem setRunning_eq_error {running : Bool} {failure : Failure} (quiet : simulator.pending = [])
    (led : (onLink (·.setRunning running)).through session simulator =
      ((.error failure, next), after)) :
    next = session ∧ after = simulator :=
  have silent : (Command.setRunning running).IsSilent := trivial
  tell_eq_error silent quiet led

theorem onLink_writeMemory {address : Address} {bytes : List UInt8} (nonempty : bytes ≠ [])
    (few : bytes.length ≤ Link.writeLimit) :
    onLink (·.writeMemory address bytes) = onLink (·.tell (.write address.physical bytes)) := by
  have occupied : ¬ bytes.isEmpty = true := by simpa using nonempty
  simp only [Link.writeMemory, if_neg (Nat.not_lt.mpr few), if_neg occupied]

theorem writeMemory_eq_ok {address : Address} {bytes : List UInt8} {value : Unit}
    (nonempty : bytes ≠ []) (few : bytes.length ≤ Link.writeLimit) (quiet : simulator.pending = [])
    (led : (onLink (·.writeMemory address bytes)).through session simulator =
      ((.ok value, next), after)) :
    next = session ∧ after = { simulator with
      machine := simulator.machine.writeBytes address.physical bytes } := by
  have silent : (Command.write address.physical bytes).IsSilent := trivial
  rw [onLink_writeMemory nonempty few] at led
  obtain ⟨same, obeyed⟩ := tell_eq_ok silent quiet led
  rw [Command.cut, Address.physical_and_mask] at obeyed
  exact ⟨same, obeyed⟩

theorem writeMemory_eq_error {address : Address} {bytes : List UInt8} {failure : Failure}
    (nonempty : bytes ≠ []) (few : bytes.length ≤ Link.writeLimit) (quiet : simulator.pending = [])
    (led : (onLink (·.writeMemory address bytes)).through session simulator =
      ((.error failure, next), after)) :
    next = session ∧ after = simulator := by
  have silent : (Command.write address.physical bytes).IsSilent := trivial
  rw [onLink_writeMemory nonempty few] at led
  exact tell_eq_error silent quiet led

theorem failOn_of_led {α : Type} {action : Action α} {outcome : Except Failure α × Session}
    (led : action.through session simulator = (outcome, after)) :
    after.failOn = simulator.failOn := by
  have kept := Simulator.through_failOn (action.run.run session) simulator
  rwa [show Dialogue.through (action.run.run session) simulator = (outcome, after) from led] at kept

theorem through_setRunning (ready : simulator.Ready) (session : Session) (running : Bool) :
    (onLink (·.setRunning running)).through session simulator =
      ((.ok (), session), { simulator with running }) :=
  have silent : (Command.setRunning running).IsSilent := trivial
  through_onLink_of_ok (Simulator.through_tell session.link silent ready.quiet (ready.takes _))

section Arming

variable {α : Type} {property : Simulator → Prop} {address : UInt32} {armed : SoftwareBreakpoint}
  {failure : Failure}

theorem readRegisters_lasting {result : Except Failure Registers}
    (lasting : Simulator.Lasting property) (quiet : simulator.pending = [])
    (holds : property simulator)
    (led : (onLink (·.readRegisters)).through session simulator = ((result, next), after)) :
    next = session ∧ property after := by
  rw [through_onLink] at led
  simp only [Prod.mk.injEq] at led
  obtain ⟨⟨-, rfl⟩, rfl⟩ := led
  refine ⟨rfl, Simulator.ask_induction property lasting.replied ?_ quiet holds⟩
  intro other kept
  exact lasting.replied other.polled other.poll.pending (lasting.polled other kept)

theorem readWindow_lasting {place : Address} {result : Except Failure Window}
    (lasting : Simulator.Lasting property) (quiet : simulator.pending = [])
    (holds : property simulator)
    (led : (onLink (·.readWindow place)).through session simulator = ((result, next), after)) :
    next = session ∧ property after := by
  rw [through_onLink] at led
  simp only [Prod.mk.injEq] at led
  obtain ⟨⟨-, rfl⟩, rfl⟩ := led
  refine ⟨rfl, Simulator.ask_induction property lasting.replied ?_ quiet holds⟩
  intro other kept
  exact lasting.replied other (other.pending ++ [(Simulator.window other.machine _).line]) kept

theorem seemsStopped_lasting {left : Nat} {count : StallCount} {result : Except Failure Bool}
    (lasting : Simulator.Lasting property) (quiet : simulator.pending = [])
    (holds : property simulator)
    (led : (seemsStopped left count).through session simulator = ((result, next), after)) :
    next = session ∧ property after ∧ ∀ stopped, result = .ok stopped → after.pending = [] := by
  induction left generalizing simulator count with
  | zero =>
    rw [seemsStopped, through_pure] at led
    cases led
    exact ⟨rfl, holds, fun _ _ => quiet⟩
  | succ left ih =>
    rw [seemsStopped, through_bind_of_ok (through_get _ _)] at led
    rcases bind_eq_iff.mp led with ⟨failure, failed, rfl⟩ | ⟨registers, same, polled, read, led⟩
    · obtain ⟨rfl, kept⟩ := readRegisters_lasting lasting quiet holds failed
      exact ⟨rfl, kept, fun _ impossible => by simp at impossible⟩
    · obtain ⟨rfl, rfl, -⟩ := readRegisters_eq_ok quiet read
      simp only at led
      split at led
      · rw [through_pure] at led
        cases led
        exact ⟨rfl, lasting.polled _ holds, fun _ _ => rfl⟩
      · rw [through_bind_of_ok (through_pause _ _)] at led
        exact ih rfl (lasting.polled _ holds) led

theorem isStopped_lasting {result : Except Failure Bool} (lasting : Simulator.Lasting property)
    (quiet : simulator.pending = []) (holds : property simulator)
    (led : isStopped.through session simulator = ((result, next), after)) :
    next = session ∧ property after ∧ ∀ stopped, result = .ok stopped → after.pending = [] := by
  rw [isStopped, through_bind_of_ok (through_get _ _)] at led
  exact seemsStopped_lasting lasting quiet holds led

/-- Saves the bytes at an address, patches the self-jump in and notes the breakpoint. -/
def placeBreakpoint (address : UInt32) : Action SoftwareBreakpoint := do
  let registers ← onLink (·.readRegisters)
  let place := SoftwareBreakpoint.patchAddress address registers.inHypervisor
  let window ← onLink (·.readWindow place)
  onLink (·.writeMemory place (SoftwareBreakpoint.wedge place.cpuAddress))
  let armed : SoftwareBreakpoint := ⟨place, SoftwareBreakpoint.savedOf window⟩
  modify fun session => { session with breakpoint := some armed }
  pure armed

/-- Places a breakpoint with the processor stopped meanwhile. -/
def placeMeanwhile (address : UInt32) : Action SoftwareBreakpoint := do
  onLink (·.setRunning false)
  let armed ← placeBreakpoint address
  onLink (·.setRunning true)
  pure armed

theorem setSoftwareBreakpoint_eq (address : UInt32) :
    setSoftwareBreakpoint address = (do
      let stopped ← isStopped
      if stopped = true then placeBreakpoint address else placeMeanwhile address) := by
  rw [setSoftwareBreakpoint]
  congr 1
  funext stopped
  cases stopped <;> simp [placeBreakpoint, placeMeanwhile]

theorem placeBreakpoint_lasting {result : Except Failure SoftwareBreakpoint}
    (lasting : Simulator.Lasting property) (quiet : simulator.pending = [])
    (holds : property simulator)
    (led : (placeBreakpoint address).through session simulator = ((result, next), after)) :
    (∃ failure, result = .error failure ∧ next = session ∧ property after) ∨
      ∃ seen, property seen ∧ seen.pending = [] ∧ result = .ok (.armedOn seen.machine address) ∧
        next = { session with breakpoint := some (.armedOn seen.machine address) } ∧
        after = { seen with
          machine := (SoftwareBreakpoint.armedOn seen.machine address).patch seen.machine } := by
  rw [placeBreakpoint] at led
  rcases bind_eq_iff.mp led with ⟨failure, failed, rfl⟩ | ⟨registers, same, polled, read, led⟩
  · obtain ⟨rfl, kept⟩ := readRegisters_lasting lasting quiet holds failed
    exact .inl ⟨failure, rfl, rfl, kept⟩
  obtain ⟨rfl, rfl, shown⟩ := readRegisters_eq_ok quiet read
  have mode : registers.inHypervisor = simulator.polled.machine.registers.inHypervisor := by
    rw [shown]
    rfl
  have seen := lasting.polled _ holds
  simp only at led
  rcases bind_eq_iff.mp led with ⟨failure, failed, rfl⟩ | ⟨window, same, looked, read, led⟩
  · obtain ⟨rfl, kept⟩ := readWindow_lasting lasting rfl seen failed
    exact .inl ⟨failure, rfl, rfl, kept⟩
  obtain ⟨rfl, rfl, rfl⟩ := readWindow_eq_ok rfl read
  rcases bind_eq_iff.mp led with ⟨failure, failed, rfl⟩ | ⟨_, same, patched, written, led⟩
  · obtain ⟨rfl, rfl⟩ := writeMemory_eq_error (SoftwareBreakpoint.wedge_ne_nil _)
      (SoftwareBreakpoint.wedge_short _) rfl failed
    exact .inl ⟨failure, rfl, rfl, seen⟩
  obtain ⟨rfl, rfl⟩ := writeMemory_eq_ok (SoftwareBreakpoint.wedge_ne_nil _)
      (SoftwareBreakpoint.wedge_short _) rfl written
  rw [through_bind_of_ok (through_modify _ _ _), through_pure, mode] at led
  cases led
  refine .inr ⟨simulator.polled, seen, rfl, ?_, ?_, ?_⟩
  · rfl
  · rfl
  · rw [SoftwareBreakpoint.patch_armedOn]

/-- What arming comes to: it fails and changes nothing that lasts, or it saves and patches the bytes
that are there when it looks. In the second case it may still fail later, when it lets the processor
run again. -/
def ArmingOutcome (property : Simulator → Prop) (address : UInt32) (session : Session)
    (result : Except Failure SoftwareBreakpoint) (next : Session) (after : Simulator) : Prop :=
  (∃ failure, result = .error failure ∧ next = session ∧ property after) ∨
    ∃ seen, property seen ∧
      next = { session with breakpoint := some (.armedOn seen.machine address) } ∧
      after.machine = (SoftwareBreakpoint.armedOn seen.machine address).patch seen.machine ∧
      ∀ armed, result = .ok armed → armed = .armedOn seen.machine address ∧ after.pending = []

theorem placeMeanwhile_lasting {result : Except Failure SoftwareBreakpoint}
    (lasting : Simulator.Lasting property) (quiet : simulator.pending = [])
    (holds : property simulator)
    (led : (placeMeanwhile address).through session simulator = ((result, next), after)) :
    ArmingOutcome property address session result next after := by
  rw [placeMeanwhile] at led
  rcases bind_eq_iff.mp led with ⟨failure, failed, rfl⟩ | ⟨_, _, halted, halting, led⟩
  · obtain ⟨rfl, rfl⟩ := setRunning_eq_error quiet failed
    exact .inl ⟨failure, rfl, rfl, holds⟩
  obtain ⟨rfl, rfl⟩ := setRunning_eq_ok quiet halting
  have drained : ({ simulator with running := false } : Simulator).pending = [] := quiet
  rcases bind_eq_iff.mp led with ⟨failure, failed, rfl⟩ | ⟨placed, noting, held, placing, led⟩
  · rcases placeBreakpoint_lasting lasting drained (lasting.halted _ holds) failed with
      ⟨cause, same, rest⟩ | ⟨seen, -, -, impossible, -⟩
    · cases same
      exact .inl ⟨failure, rfl, rest⟩
    · simp at impossible
  rcases placeBreakpoint_lasting lasting drained (lasting.halted _ holds) placing with
    ⟨cause, impossible, -⟩ | ⟨seen, holds, drained, same, rfl, rfl⟩
  · simp at impossible
  cases same
  have waiting : ({ seen with
      machine := (SoftwareBreakpoint.armedOn seen.machine address).patch seen.machine } :
      Simulator).pending = [] := drained
  rcases bind_eq_iff.mp led with ⟨failure, failed, rfl⟩ | ⟨_, _, resumed, resuming, led⟩
  · obtain ⟨rfl, rfl⟩ := setRunning_eq_error waiting failed
    exact .inr ⟨seen, holds, rfl, rfl, fun _ impossible => by simp at impossible⟩
  · obtain ⟨rfl, rfl⟩ := setRunning_eq_ok waiting resuming
    rw [through_pure] at led
    cases led
    refine .inr ⟨seen, holds, rfl, rfl, ?_⟩
    rintro armed same
    cases same
    exact ⟨rfl, drained⟩

theorem setSoftwareBreakpoint_lasting {result : Except Failure SoftwareBreakpoint}
    (lasting : Simulator.Lasting property) (quiet : simulator.pending = [])
    (holds : property simulator)
    (led : (setSoftwareBreakpoint address).through session simulator = ((result, next), after)) :
    ArmingOutcome property address session result next after := by
  rw [setSoftwareBreakpoint_eq] at led
  rcases bind_eq_iff.mp led with ⟨failure, failed, rfl⟩ | ⟨stopped, _, sampled, sampling, led⟩
  · obtain ⟨rfl, kept, -⟩ := isStopped_lasting lasting quiet holds failed
    exact .inl ⟨failure, rfl, rfl, kept⟩
  obtain ⟨rfl, kept, drained⟩ := isStopped_lasting lasting quiet holds sampling
  replace drained := drained stopped rfl
  cases stopped with
  | true =>
    rw [if_pos rfl] at led
    rcases placeBreakpoint_lasting lasting drained kept led with
      failed | ⟨seen, holds, quiet, rfl, rfl, rfl⟩
    · exact .inl failed
    · refine .inr ⟨seen, holds, rfl, rfl, ?_⟩
      rintro armed same
      cases same
      exact ⟨rfl, quiet⟩
  | false =>
    rw [if_neg Bool.false_ne_true] at led
    exact placeMeanwhile_lasting lasting drained kept led

theorem setSoftwareBreakpoint_eq_ok (lasting : Simulator.Lasting property)
    (quiet : simulator.pending = []) (holds : property simulator)
    (led : (setSoftwareBreakpoint address).through session simulator =
      ((.ok armed, next), after)) :
    ∃ seen, property seen ∧ armed = .armedOn seen.machine address ∧
      next = { session with breakpoint := some armed } ∧ after.pending = [] ∧
      after.machine = armed.patch seen.machine := by
  rcases setSoftwareBreakpoint_lasting lasting quiet holds led with
    ⟨failure, impossible, -⟩ | ⟨seen, held, rfl, patched, succeeded⟩
  · simp at impossible
  · obtain ⟨rfl, quiet⟩ := succeeded armed rfl
    exact ⟨seen, held, rfl, rfl, quiet, patched⟩

theorem setSoftwareBreakpoint_stopped (quiet : simulator.pending = [])
    (stopped : simulator.running = false)
    (arming : (setSoftwareBreakpoint address).through session simulator =
      ((.ok armed, next), after)) :
    armed = .armedOn simulator.machine address ∧
      next = { session with breakpoint := some armed } ∧ after.pending = [] ∧
      after.machine = armed.patch simulator.machine := by
  obtain ⟨seen, ⟨-, unmoved⟩, armedOn, noted, drained, image⟩ := setSoftwareBreakpoint_eq_ok
    (Simulator.lasting_stopped simulator.machine) quiet ⟨stopped, rfl⟩ arming
  rw [unmoved] at armedOn image
  exact ⟨armedOn, noted, drained, image⟩

end Arming

theorem clearSoftwareBreakpoint_eq_ok {armed : SoftwareBreakpoint}
    {removed : Option SoftwareBreakpoint} (quiet : simulator.pending = [])
    (slot : session.breakpoint = some armed)
    (led : clearSoftwareBreakpoint.through session simulator = ((.ok removed, next), after)) :
    removed = some armed ∧ next = { session with breakpoint := none } ∧ after =
      { simulator with running := false, machine := armed.unpatch simulator.machine } := by
  rw [clearSoftwareBreakpoint, through_bind_of_ok (through_get _ _), slot] at led
  simp only at led
  rw [through_bind_of_ok (through_set _ _ _), bind_eq_ok] at led
  obtain ⟨_, _, halted, halting, led⟩ := led
  obtain ⟨rfl, rfl⟩ := setRunning_eq_ok quiet halting
  rw [bind_eq_ok] at led
  obtain ⟨_, _, restored, writing, led⟩ := led
  have drained : ({ simulator with running := false } : Simulator).pending = [] := quiet
  obtain ⟨rfl, rfl⟩ := writeMemory_eq_ok armed.saved_ne_nil armed.saved_short drained writing
  rw [through_pure] at led
  cases led
  exact ⟨rfl, rfl, rfl⟩

end Action

end RemoteDebugger
