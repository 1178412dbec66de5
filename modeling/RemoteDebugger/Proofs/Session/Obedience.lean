import RemoteDebugger.Proofs.Session.Stall
import RemoteDebugger.Proofs.Session.StepOver
import RemoteDebugger.Session.Code

/-!
Commands that a paused monitor obeys. An action sends one command after another. A command that the
device loses, or a question whose answer cannot be read, ends the action there: the monitor has
obeyed the commands before it and will not see those behind it. If none fails, the action succeeds.
So a list of commands says of an action both what it does and what is left of it when it is cut
short.
-/

set_option autoImplicit false

namespace RemoteDebugger

/-- What a paused monitor makes of its machine by obeying a command. -/
def Machine.obey (machine : Machine) (command : Command) : Machine :=
  (({ machine } : Simulator).handle command.cut).machine

def Machine.obeying (machine : Machine) (commands : List Command) : Machine :=
  commands.foldl Machine.obey machine

namespace Machine

variable {machine : Machine}

@[simp] theorem obeying_nil (machine : Machine) : machine.obeying [] = machine :=
  rfl

@[simp] theorem obeying_cons (machine : Machine) (command : Command) (others : List Command) :
    machine.obeying (command :: others) = (machine.obey command).obeying others :=
  rfl

theorem obeying_append (machine : Machine) (first second : List Command) :
    machine.obeying (first ++ second) = (machine.obeying first).obeying second :=
  List.foldl_append

@[simp] theorem obey_readRegisters (machine : Machine) : machine.obey .readRegisters = machine :=
  rfl

@[simp] theorem obey_setPc (machine : Machine) (address : UInt16) :
    machine.obey (.setPc address) = machine.jump address :=
  rfl

@[simp] theorem obey_singleStep (machine : Machine) : machine.obey .singleStep = machine.execute :=
  rfl

@[simp] theorem obey_write (machine : Machine) (address : Address) (bytes : List UInt8) :
    machine.obey (.write address.physical bytes) = machine.writeBytes address.physical bytes := by
  rw [obey, Command.cut, Address.physical_and_mask]
  rfl

theorem obey_flags (machine : Machine) (command : Command) :
    (machine.obey command).registers.flags = machine.registers.flags := by
  cases command with
  | write physical bytes =>
    exact congrArg Registers.flags (writeBytes_registers machine (physical &&& Address.mask) bytes)
  | singleStep => exact execute_flags machine
  | stepOver => exact Stride.native.flags machine
  | _ => rfl

theorem obeying_flags (machine : Machine) (commands : List Command) :
    (machine.obeying commands).registers.flags = machine.registers.flags := by
  induction commands generalizing machine with
  | nil => rfl
  | cons command commands ih => exact (ih _).trans (obey_flags machine command)

/-- What a monitor meets that obeys one command after another: each command, with the machine that
it finds. -/
def stages : Machine → List Command → List (Command × Machine)
  | _, [] => []
  | machine, command :: others => (command, machine) :: stages (machine.obey command) others

theorem mem_stages (machine : Machine) (done : List Command) (lost : Command)
    (rest : List Command) :
    (lost, machine.obeying done) ∈ machine.stages (done ++ lost :: rest) := by
  induction done generalizing machine with
  | nil => exact List.mem_cons_self
  | cons command done ih => exact List.mem_cons_of_mem _ (ih _)

end Machine

/-- A command that a paused machine takes no notice of: a question, or one to halt. -/
def Command.IsIdle : Command → Prop
  | .readRegisters | .readWindow _ | .readBulk _ | .setRunning _ => True
  | _ => False

theorem Machine.obeying_of_idle {commands : List Command}
    (idle : ∀ command ∈ commands, command.IsIdle) (machine : Machine) :
    machine.obeying commands = machine := by
  induction commands with
  | nil => rfl
  | cons command commands ih =>
    have own : machine.obey command = machine := by
      cases command with
      | readRegisters | readWindow _ | readBulk _ | setRunning _ => rfl
      | _ => exact (idle _ List.mem_cons_self).elim
    rw [obeying_cons, own]
    exact ih fun other member => idle other (List.mem_cons_of_mem command member)

theorem Simulator.Paused.handle {machine : Machine} {simulator : Simulator} {command : Command}
    (paused : simulator.Paused machine) (silent : command.IsSilent)
    (halting : command ≠ .setRunning true) :
    (simulator.handle command.cut).Paused (machine.obey command) := by
  obtain ⟨quiet, stopped, rfl⟩ := paused
  cases command with
  | setRunning running =>
    cases running with
    | true => exact absurd rfl halting
    | false => exact ⟨quiet, rfl, rfl⟩
  | readRegisters | readWindow _ | readBulk _ => exact silent.elim
  | _ => exact ⟨quiet, stopped, rfl⟩

/-- A question can be answered if the link reads far enough to meet the answer. Registers without a
mark for their flags are no answer. -/
def Command.IsAnswered (command : Command) (session : Session) (machine : Machine) : Prop :=
  match command with
  | .readRegisters => session.Legible machine
  | .readWindow _ | .readBulk _ => 2 ≤ session.link.reads
  | _ => True

/-- The device loses the command, or its answer is not met. -/
def Command.Fails (command : Command) (session : Session) (simulator : Simulator) : Prop :=
  simulator.failOn = some command.line ∨ ¬ command.IsAnswered session simulator.machine

theorem Command.isAnswered_of_legible {session : Session} {machine : Machine}
    (legible : session.Legible machine) (command : Command) :
    command.IsAnswered session machine := by
  cases command with
  | readRegisters => exact legible
  | readWindow _ | readBulk _ => exact Nat.le_of_succ_le legible.1
  | _ => trivial

theorem Command.isAnswered_congr {machine other : Machine}
    (same : machine.registers.flags = other.registers.flags) (command : Command)
    (session : Session) :
    command.IsAnswered session machine ↔ command.IsAnswered session other := by
  cases command with
  | readRegisters =>
    show _ ∧ Text.words machine.registers.flags ≠ [] ↔ _ ∧ Text.words other.registers.flags ≠ []
    rw [same]
  | _ => exact Iff.rfl

theorem Command.IsSilent.isAnswered {command : Command} (silent : command.IsSilent)
    (session : Session) (machine : Machine) : command.IsAnswered session machine := by
  cases command with
  | readRegisters | readWindow _ | readBulk _ => exact silent.elim
  | _ => trivial

theorem Command.IsSilent.fails_iff {command : Command} (silent : command.IsSilent)
    {session : Session} {simulator : Simulator} :
    command.Fails session simulator ↔ simulator.failOn = some command.line :=
  or_iff_left (not_not.mpr (silent.isAnswered session simulator.machine))

theorem Command.not_fails {session : Session} {simulator : Simulator}
    (working : simulator.failOn = none) (legible : session.Legible simulator.machine)
    (command : Command) : ¬ command.Fails session simulator := by
  rintro (lost | unanswered)
  · rw [working] at lost
    exact absurd lost (Option.some_ne_none _).symm
  · exact unanswered (isAnswered_of_legible legible command)

/-- The samples that decide whether the processor is stopped are enough to tell that it is. -/
def Config.RecognisesStop (config : Config) : Prop :=
  max config.stallThreshold 1 < config.stoppedCheckPolls

instance (config : Config) : Decidable config.RecognisesStop :=
  inferInstanceAs (Decidable (_ < _))

/-- How many samples a session takes of a stopped processor before it says whether it is stopped. -/
def Config.stopSamples (config : Config) : Nat :=
  min config.stoppedCheckPolls (max config.stallThreshold 1 + 1)

theorem StallCount.observe_observe (count : StallCount) (pc : UInt16) :
    ((count.observe pc).observe pc).same = (count.observe pc).same + 1 := by
  rw [observe, if_pos (count.observe_last pc)]

namespace Action

variable {α β : Type} {session next : Session} {simulator after : Simulator} {machine : Machine}
  {commands others : List Command}

/-- Over a paused monitor the action sends so many commands. If none of them fails, it succeeds with
a value, and the monitor has obeyed them all. Otherwise it fails at the first that does, and the
monitor has obeyed those before it. -/
def Performs (action : Action α) (session : Session) (machine : Machine)
    (commands : List Command) (value : α) : Prop :=
  ∀ simulator : Simulator, simulator.Paused machine →
    (∃ after, action.through session simulator = ((.ok value, session), after) ∧
      (∀ command ∈ commands, ¬ command.Fails session simulator) ∧
      after.Paused (machine.obeying commands)) ∨
    ∃ failure done lost rest after,
      action.through session simulator = ((.error failure, session), after) ∧
      commands = done ++ lost :: rest ∧
      (∀ command ∈ done, ¬ command.Fails session simulator) ∧ lost.Fails session simulator ∧
      after.running = false ∧ after.machine = machine.obeying done

/-- A command fails later if and only if it fails now: no action mends the device, and no command
touches the flags. -/
private theorem fails_iff_of_led {action : Action α} {outcome : Except Failure α × Session}
    (paused : simulator.Paused machine)
    (led : action.through session simulator = (outcome, after))
    (obeyed : after.machine = machine.obeying commands) (command : Command) :
    command.Fails session after ↔ command.Fails session simulator := by
  have flags : after.machine.registers.flags = simulator.machine.registers.flags := by
    rw [obeyed, Machine.obeying_flags, paused.holds]
  rw [Command.Fails, Command.Fails, failOn_of_led led, Command.isAnswered_congr flags]

theorem Performs.bind {action : Action α} {rest : α → Action β} {value : α} {result : β}
    (first : action.Performs session machine commands value)
    (later : (rest value).Performs session (machine.obeying commands) others result) :
    (action >>= rest).Performs session machine (commands ++ others) result := by
  intro simulator paused
  rcases first simulator paused with ⟨middle, led, sound, waiting⟩ |
    ⟨failure, done, lost, unsent, after, led, split, sound, fails, stopped, left⟩
  · have same := fails_iff_of_led paused led waiting.holds
    rcases later middle waiting with ⟨after, ended, soundLater, ending⟩ |
      ⟨failure, done, lost, unsent, after, ended, split, soundLater, fails, stopped, left⟩
    · refine .inl ⟨after, (through_bind_of_ok led).trans ended, ?_, ?_⟩
      · intro command sent
        rcases List.mem_append.mp sent with early | late
        · exact sound command early
        · exact (same command).not.mp (soundLater command late)
      · rwa [Machine.obeying_append]
    · refine .inr ⟨failure, commands ++ done, lost, unsent, after,
        (through_bind_of_ok led).trans ended, ?_, ?_, (same lost).mp fails, stopped, ?_⟩
      · rw [split, List.append_assoc]
      · intro command sent
        rcases List.mem_append.mp sent with early | late
        · exact sound command early
        · exact (same command).not.mp (soundLater command late)
      · rw [left, Machine.obeying_append]
  · refine .inr ⟨failure, done, lost, unsent ++ others, after, through_bind_of_error led, ?_,
      sound, fails, stopped, left⟩
    rw [split, List.append_assoc, List.cons_append]

theorem Performs.bind_silent {action : Action α} {rest : α → Action β} {value : α} {result : β}
    (first : action.Performs session machine [] value)
    (later : (rest value).Performs session machine others result) :
    (action >>= rest).Performs session machine others result :=
  first.bind later

theorem Performs.bind_cons {action : Action α} {rest : α → Action β} {value : α} {result : β}
    {command : Command} (first : action.Performs session machine [command] value)
    (later : (rest value).Performs session (machine.obey command) others result) :
    (action >>= rest).Performs session machine (command :: others) result :=
  first.bind later

theorem performs_of_still {action : Action α} {value : α}
    (still : ∀ simulator : Simulator,
      action.through session simulator = ((.ok value, session), simulator)) :
    action.Performs session machine [] value :=
  fun simulator paused => .inl ⟨simulator, still simulator,
    fun _ sent => absurd sent List.not_mem_nil, paused⟩

theorem performs_pure (value : α) : (pure value : Action α).Performs session machine [] value :=
  performs_of_still fun _ => rfl

theorem performs_get : (get : Action Session).Performs session machine [] session :=
  performs_of_still fun _ => rfl

theorem performs_pause : pause.Performs session machine [] () :=
  performs_of_still fun _ => rfl

theorem performs_of_command {action : Action α} {command : Command} {value : α}
    (led : ∀ simulator : Simulator, simulator.Paused machine →
      (¬ command.Fails session simulator ∧ ∃ after,
        action.through session simulator = ((.ok value, session), after) ∧
        after.Paused (machine.obey command)) ∨
      (command.Fails session simulator ∧ ∃ failure after,
        action.through session simulator = ((.error failure, session), after) ∧
        after.running = false ∧ after.machine = machine)) :
    action.Performs session machine [command] value := by
  intro simulator paused
  rcases led simulator paused with ⟨sound, after, ended, waiting⟩ |
    ⟨fails, failure, after, ended, stopped, unmoved⟩
  · refine .inl ⟨after, ended, ?_, waiting⟩
    intro sent member
    rwa [List.mem_singleton.mp member]
  · exact .inr ⟨failure, [], command, [], after, ended, rfl,
      fun _ sent => absurd sent List.not_mem_nil, fails, stopped, unmoved⟩

theorem performs_tell {command : Command} (silent : command.IsSilent)
    (halting : command ≠ .setRunning true) :
    (onLink (·.tell command)).Performs session machine [command] () := by
  apply performs_of_command
  intro simulator paused
  rw [through_onLink]
  rcases Simulator.through_tell_eq_or session.link silent paused.quiet with
    ⟨lost, led⟩ | ⟨taken, led⟩
  · rw [led]
    exact .inr ⟨silent.fails_iff.mpr lost, _, simulator, rfl, paused.stopped, paused.holds⟩
  · rw [led]
    exact .inl ⟨silent.fails_iff.not.mpr taken, _, rfl, paused.handle silent halting⟩

theorem performs_setPc (address : UInt16) :
    (onLink (·.setPc address)).Performs session machine [.setPc address] () :=
  have silent : (Command.setPc address).IsSilent := trivial
  performs_tell silent Command.noConfusion

theorem performs_singleStep :
    (onLink (·.singleStep)).Performs session machine [.singleStep] () :=
  have silent : Command.singleStep.IsSilent := trivial
  performs_tell silent Command.noConfusion

theorem performs_halt :
    (onLink (·.setRunning false)).Performs session machine [.setRunning false] () :=
  have silent : (Command.setRunning false).IsSilent := trivial
  performs_tell silent (by simp)

theorem performs_writeMemory {place : Address} {bytes : List UInt8} (nonempty : bytes ≠ [])
    (few : bytes.length ≤ Link.writeLimit) :
    (onLink (·.writeMemory place bytes)).Performs session machine
      [.write place.physical bytes] () := by
  have silent : (Command.write place.physical bytes).IsSilent := trivial
  rw [onLink_writeMemory nonempty few]
  exact performs_tell silent Command.noConfusion

theorem performs_readRegisters :
    (onLink (·.readRegisters)).Performs session machine [.readRegisters]
      machine.registers.shown := by
  apply performs_of_command
  intro simulator paused
  have polled := paused.polled
  rw [through_onLink, Command.Fails, paused.holds]
  by_cases failing : simulator.failOn = some Command.readRegisters.line
  · rw [Link.readRegisters, Simulator.through_ask_failing paused.quiet failing]
    exact .inr ⟨.inl failing, _, simulator, rfl, paused.stopped, paused.holds⟩
  cases flags : Text.words machine.registers.flags with
  | nil =>
    have blank : Text.words simulator.polled.machine.registers.flags = [] := by
      rwa [polled.holds]
    rw [Simulator.through_readRegisters_of_blank paused.quiet failing blank]
    exact .inr ⟨.inr fun legible => legible.2 flags, _, _, rfl, polled.stopped, polled.holds⟩
  | cons first words =>
    have marked : Text.words machine.registers.flags ≠ [] := flags ▸ List.cons_ne_nil _ _
    have shown : (Text.words simulator.polled.machine.registers.flags).head? = some first := by
      rw [polled.holds, flags, List.head?_cons]
    rw [Simulator.through_readRegisters paused.quiet failing shown]
    split
    · rename_i enough
      refine .inl ⟨not_or.mpr ⟨failing, not_not.mpr ⟨enough, marked⟩⟩, _, ?_, polled⟩
      rw [polled.holds, Registers.shown, flags, List.headD_cons]
      rfl
    · rename_i few
      exact .inr ⟨.inr fun legible => few legible.1, _, _, rfl, polled.stopped, polled.holds⟩

theorem performs_readWindow (place : Address) :
    (onLink (·.readWindow place)).Performs session machine [.readWindow place.physical]
      (Simulator.window machine place.physical) := by
  apply performs_of_command
  intro simulator paused
  rw [through_onLink]
  by_cases failing : simulator.failOn = some (Command.readWindow place.physical).line
  · rw [Link.readWindow, Simulator.through_ask_failing paused.quiet failing]
    exact .inr ⟨.inl failing, _, simulator, rfl, paused.stopped, paused.holds⟩
  rw [Simulator.through_readWindow paused.quiet failing, paused.holds]
  split
  · rename_i enough
    exact .inl ⟨not_or.mpr ⟨failing, not_not.mpr enough⟩, _, rfl, paused⟩
  · rename_i few
    exact .inr ⟨.inr few, _, _, rfl, paused.stopped, rfl⟩

private theorem performs_seemsStopped {left : Nat} {count : StallCount}
    (few : (count.observe machine.registers.pc).same ≤ max session.config.stallThreshold 1) :
    (seemsStopped left count).Performs session machine
      (List.replicate (min left (max session.config.stallThreshold 1 + 1 -
        (count.observe machine.registers.pc).same)) .readRegisters)
      (decide (max session.config.stallThreshold 1 <
        (count.observe machine.registers.pc).same + left)) := by
  -- What the next sample will count is never past the threshold before there is an answer.
  induction left generalizing count with
  | zero =>
    rw [Nat.zero_min, List.replicate_zero, decide_eq_false (by omega)]
    exact performs_pure false
  | succ left ih =>
    have more : min (left + 1) (max session.config.stallThreshold 1 + 1 -
        (count.observe machine.registers.pc).same) =
        min left (max session.config.stallThreshold 1 -
          (count.observe machine.registers.pc).same) + 1 := by
      omega
    rw [more, List.replicate_succ]
    apply performs_get.bind_silent
    apply performs_readRegisters.bind_cons
    show Action.Performs (if max session.config.stallThreshold 1 ≤
      (count.observe machine.registers.pc).same then _ else _) _ _ _ _
    split
    · rename_i enough
      rw [decide_eq_true (by omega), Nat.sub_eq_zero_of_le enough, Nat.min_zero]
      exact performs_pure true
    · rename_i further
      have again := count.observe_observe machine.registers.pc
      have later := @ih (count.observe machine.registers.pc) (by omega)
      apply performs_pause.bind_silent
      rw [again, Nat.add_sub_add_right, Nat.add_right_comm] at later
      exact later

theorem performs_isStopped :
    isStopped.Performs session machine
      (List.replicate session.config.stopSamples .readRegisters)
      (decide session.config.RecognisesStop) := by
  have sampling := @performs_seemsStopped session machine session.config.stoppedCheckPolls {}
    (Nat.zero_le _)
  have first : (({} : StallCount).observe machine.registers.pc).same = 0 := rfl
  rw [first, Nat.zero_add, Nat.sub_zero] at sampling
  exact performs_get.bind_silent sampling

theorem Performs.eq_ok {action : Action α} {value answer : α}
    (performs : action.Performs session machine commands value) (paused : simulator.Paused machine)
    (led : action.through session simulator = ((.ok answer, next), after)) :
    answer = value ∧ next = session ∧ after.Paused (machine.obeying commands) := by
  rcases performs simulator paused with ⟨_, same, -, waiting⟩ | ⟨_, _, _, _, _, failed, -⟩
  · rw [led] at same
    cases same
    exact ⟨rfl, rfl, waiting⟩
  · rw [led] at failed
    simp at failed

end Action

end RemoteDebugger
