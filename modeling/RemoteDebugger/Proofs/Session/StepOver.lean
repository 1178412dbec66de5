import Mathlib.Data.List.Iterate
import RemoteDebugger.Proofs.Session.Stepping
import RemoteDebugger.Proofs.Session.Transcript

/-!
Stepping over by the debugger and by the monitor. Over a link that works, with no wish to stop, a
stepping command sends the command that moves the machine as often as its rounds take moves, and
then completes. The debugger sends single steps, one for each instruction; the monitor's own step
over is sent once for each instruction or call, or as often as it takes to leave a source line.
-/

set_option autoImplicit false

namespace RemoteDebugger

open Machine (execute StepsOver LeavesLine)

theorem Command.isSilent_cut {command : Command} : command.cut.IsSilent ↔ command.IsSilent := by
  cases command <;> exact Iff.rfl

theorem Command.line_ne_of_silent {asked command : Command} (loud : ¬ asked.IsSilent)
    (silent : command.IsSilent) : asked.line ≠ command.line := by
  intro same
  have read := congrArg ofLine? same
  rw [ofLine?_line, ofLine?_line, Option.some_inj] at read
  rw [← isSilent_cut, read, isSilent_cut] at loud
  exact loud silent

/-- A command by which the machine makes a move. It has no answer, and no move touches the flags. -/
structure Stride where
  command : Command
  move : Machine → Machine
  silent : command.IsSilent
  moves : ∀ simulator : Simulator,
    simulator.handle command.cut = { simulator with machine := move simulator.machine }
  flags : ∀ machine, (move machine).registers.flags = machine.registers.flags

namespace Stride

/-- The single step. -/
def single : Stride where
  command := .singleStep
  move := execute
  silent := trivial
  moves _ := rfl
  flags := Machine.execute_flags

/-- The monitor's own step over. -/
def native : Stride where
  command := .stepOver
  move := Simulator.stepOver
  silent := trivial
  moves _ := rfl
  flags machine := by
    simp only [Simulator.stepOver]
    split
    · exact Machine.executeUntil_flags _ _ machine
    · exact Machine.execute_flags machine

end Stride

/-- The monitor is paused in a state of the machine and works, and nobody asks to stop. -/
structure Simulator.Calm (session : Session) (machine : Machine) (simulator : Simulator) : Prop
    extends simulator.Paused machine where
  working : simulator.failOn = none
  lowered : session.cancelled = false
  unasked : simulator.interrupt = false
  unwilling : simulator.cancelAt = none

namespace Simulator.Calm

variable {session : Session} {machine : Machine} {simulator : Simulator}

theorem takes (calm : simulator.Calm session machine) (line : Text) :
    simulator.failOn ≠ some line :=
  Ready.takes ⟨calm.quiet, calm.working⟩ line

theorem polled (calm : simulator.Calm session machine) : simulator.polled.Calm session machine := by
  have still := elapse_of_stopped calm.stopped
  have fresh : simulator.polled.interrupt = false := by
    simp [Simulator.polled, poll, raises, reply, still, calm.unasked, calm.unwilling]
  have never : simulator.polled.cancelAt = none := by
    show simulator.elapse.cancelAt = none
    rw [still, calm.unwilling]
  exact ⟨calm.toPaused.polled, (Ready.polled ⟨calm.quiet, calm.working⟩).working, calm.lowered,
    fresh, never⟩

end Simulator.Calm

/-- The link reads far enough to meet the registers, and the monitor shows any flags in them. -/
def Session.Legible (session : Session) (machine : Machine) : Prop :=
  3 ≤ session.link.reads ∧ Text.words machine.registers.flags ≠ []

/-- The registers as they are read: of the flags, the first word. -/
def Registers.shown (registers : Registers) : Registers :=
  { registers with flags := (Text.words registers.flags).headD [] }

namespace Action

variable {α β : Type} {session next last : Session} {simulator after : Simulator}
  {machine : Machine} {stride : Stride} {address : UInt16} {count more limit : Nat}

/-- The machines that a command finds when an action sends it. -/
def machinesAt (command : Command) (action : Action α) (session : Session)
    (simulator : Simulator) : List Machine :=
  ((action.transcript session simulator).filter fun sending => sending.line = command.line).map
    fun sending => sending.remote.machine

theorem machinesAt_ask_other {command asked : Command} (other : asked.line ≠ command.line)
    (read? : Text → Option α) :
    machinesAt command (onLink (·.ask asked read?)) session simulator = [] := by
  rw [machinesAt, transcript_onLink, Link.transcript_ask, List.filter_cons_of_neg (by simpa)]
  rfl

theorem machinesAt_ask (command : Command) (read? : Text → Option α) :
    machinesAt command (onLink (·.ask command read?)) session simulator =
      [simulator.machine] := by
  rw [machinesAt, transcript_onLink, Link.transcript_ask, List.filter_cons_of_pos (by simp)]
  rfl

theorem machinesAt_bind {command : Command} {action : Action α} {rest : α → Action β} {value : α}
    (led : action.through session simulator = ((.ok value, next), after)) :
    machinesAt command (action >>= rest) session simulator =
      machinesAt command action session simulator ++
        machinesAt command (rest value) next after := by
  rw [machinesAt, transcript_bind, led, List.filter_append, List.map_append]
  rfl

/-- Over a calm monitor whose registers are legible, the action succeeds and does nothing to the
machine but to send the stride so many times. -/
def Takes (stride : Stride) (action : Action α) (session : Session) (machine : Machine)
    (count : Nat) (value : α) (next : Session) : Prop :=
  ∀ simulator : Simulator, simulator.Calm session machine → session.Legible machine →
    ∃ after, action.through session simulator = ((.ok value, next), after) ∧
      after.Calm next (stride.move^[count] machine) ∧
      next.Legible (stride.move^[count] machine) ∧
      machinesAt stride.command action session simulator = List.iterate stride.move machine count

namespace Takes

theorem bind {action : Action α} {rest : α → Action β} {value : α} {result : β}
    (first : Takes stride action session machine count value next)
    (later : Takes stride (rest value) next (stride.move^[count] machine) more result last) :
    Takes stride (action >>= rest) session machine (count + more) result last := by
  intro simulator calm legible
  obtain ⟨middle, led, still, clear, met⟩ := first simulator calm legible
  obtain ⟨after, ended, ending, readable, found⟩ := later middle still clear
  have moved : stride.move^[count + more] machine =
      stride.move^[more] (stride.move^[count] machine) := by
    rw [Nat.add_comm, Function.iterate_add_apply]
  refine ⟨after, (through_bind_of_ok led).trans ended, ?_, ?_, ?_⟩
  · rwa [moved]
  · rwa [moved]
  · rw [machinesAt_bind led, met, found, List.iterate_add]

theorem bind_still {action : Action α} {rest : α → Action β} {value : α} {result : β}
    (first : Takes stride action session machine 0 value next)
    (later : Takes stride (rest value) next machine count result last) :
    Takes stride (action >>= rest) session machine count result last := by
  have taken := first.bind later
  rwa [Nat.zero_add] at taken

theorem bind_succ {action : Action α} {rest : α → Action β} {value : α} {result : β}
    (first : Takes stride action session machine 1 value next)
    (later : Takes stride (rest value) next (stride.move machine) count result last) :
    Takes stride (action >>= rest) session machine (count + 1) result last := by
  have taken := first.bind later
  rwa [Nat.add_comm] at taken

end Takes

theorem takes_pure (value : α) : Takes stride (pure value) session machine 0 value session := by
  intro simulator calm legible
  exact ⟨simulator, rfl, calm, legible, rfl⟩

theorem takes_enter (state : RunState) :
    Takes stride (enter state) session machine 0 () { session with state } := by
  intro simulator calm legible
  exact ⟨simulator, rfl, { calm with lowered := calm.lowered }, legible, rfl⟩

theorem isCancelled_calm (calm : simulator.Calm session machine) :
    isCancelled.through session simulator = ((.ok false, session), simulator) := by
  rw [through_isCancelled]
  rcases session with ⟨config, breakpoint, state, frame, cancelled⟩
  obtain rfl : cancelled = false := calm.lowered
  have unasked : (Transport.interrupted simulator).1 = false := calm.unasked
  have same : (Transport.interrupted simulator).2 = simulator := by
    show { simulator with interrupt := false } = simulator
    rw [← calm.unasked]
  rw [unasked, same]
  rfl

theorem takes_isCancelled : Takes stride isCancelled session machine 0 false session := by
  intro simulator calm legible
  exact ⟨simulator, isCancelled_calm calm, calm, legible, rfl⟩

theorem takes_stride : Takes stride (onLink (·.tell stride.command)) session machine 1 ()
    session := by
  intro simulator calm legible
  have told := Simulator.through_tell session.link stride.silent calm.quiet (calm.takes _)
  rw [stride.moves] at told
  refine ⟨_, through_onLink_of_ok told, ?_, ?_, ?_⟩
  · exact { calm with holds := congrArg stride.move calm.holds }
  · exact ⟨legible.1, by rw [Function.iterate_one, stride.flags]; exact legible.2⟩
  · exact (machinesAt_ask _ _).trans (congrArg (fun found => [found]) calm.holds)

theorem takes_readRegisters :
    Takes stride (onLink (·.readRegisters)) session machine 0 machine.registers.shown session := by
  intro simulator calm legible
  have still := calm.polled.holds
  have shown : (Text.words simulator.polled.machine.registers.flags).head? =
      some ((Text.words machine.registers.flags).headD []) := by
    rw [still, List.head?_eq_some_head legible.2, List.headD_eq_head?_getD,
      List.head?_eq_some_head legible.2]
    rfl
  have read := @Simulator.through_readRegisters _ session.link _ calm.quiet (calm.takes _) shown
  rw [if_pos legible.1, still] at read
  refine ⟨_, through_onLink_of_ok read, calm.polled, legible, ?_⟩
  have loud : ¬ Command.readRegisters.IsSilent := id
  exact machinesAt_ask_other (Command.line_ne_of_silent loud stride.silent) _

theorem takes_readWindow {place : Address} :
    Takes stride (onLink (·.readWindow place)) session machine 0
      (Simulator.window machine place.physical) session := by
  intro simulator calm legible
  have read := @Simulator.through_readWindow _ session.link place calm.quiet (calm.takes _)
  rw [if_pos (by have := legible.1; omega), calm.holds] at read
  refine ⟨_, through_onLink_of_ok read, calm, legible, ?_⟩
  have loud : ¬ (Command.readWindow place.physical).IsSilent := id
  exact machinesAt_ask_other (Command.line_ne_of_silent loud stride.silent) _

theorem takes_currentInstruction :
    Takes stride currentInstruction session machine 0 (machine.registers.shown, machine.glimpsed)
      session :=
  takes_readRegisters.bind_still (takes_readWindow.bind_still (takes_pure _))

theorem takes_complete :
    Takes stride complete session machine 0 (.completed machine.registers.pc)
      { session with state := .stopped } :=
  takes_readRegisters.bind_still ((takes_enter .stopped).bind_still (takes_pure _))

theorem takes_singleStep :
    Takes .single (onLink (·.singleStep)) session machine 1 () session :=
  takes_stride

theorem takes_stepOver : Takes .native (onLink (·.stepOver)) session machine 1 () session :=
  takes_stride

theorem takes_stepUntil {steps : Nat}
    (first : FirstAfter execute (fun other => other.registers.pc = address) machine steps)
    (enough : steps ≤ limit) :
    Takes .single (stepUntil address limit) session machine steps true session := by
  induction limit generalizing machine steps with
  | zero => exact absurd first.1.1 (by omega)
  | succ limit ih =>
    rw [stepUntil]
    refine takes_isCancelled.bind_still ?_
    rw [if_neg Bool.false_ne_true]
    rcases first.eq_one_or with ⟨rfl, here⟩ | ⟨rest, rfl, further, later⟩
    · refine takes_singleStep.bind_succ (takes_readRegisters.bind_still ?_)
      show Takes .single (if machine.execute.registers.pc = address then _ else _) _ _ 0 _ _
      rw [if_pos here]
      exact takes_pure true
    · refine takes_singleStep.bind_succ (takes_readRegisters.bind_still ?_)
      show Takes .single (if machine.execute.registers.pc = address then _ else _) _ _ rest _ _
      rw [if_neg further]
      exact ih later (by omega)

theorem takes_nextInstruction {steps : Nat} (passes : machine.StepsOver steps)
    (enough : steps ≤ limit) :
    Takes .single (nextInstruction limit) session machine steps true session := by
  obtain ⟨call, -, behind⟩ := machine.glimpsed_eq
  rw [nextInstruction]
  refine takes_currentInstruction.bind_still ?_
  show Takes .single (if machine.glimpsed.isCall then stepUntil machine.glimpsed.nextAddress limit
    else oneInstruction) _ _ _ _ _
  rw [call, behind]
  split
  · rename_i calls
    rw [Machine.nextAddress_of_isCall calls]
    exact takes_stepUntil ((Machine.stepsOver_call calls).mp passes) enough
  · rename_i plain
    obtain rfl := (Machine.stepsOver_single plain).mp passes
    exact takes_singleStep.bind_succ (takes_pure true)

theorem takes_leaveLine {range : LineRange}
    (first : FirstAfter Simulator.stepOver
      (fun other => range.contains other.registers.pc = false) machine count)
    (enough : count ≤ limit) :
    Takes .native (leaveLine (some range) limit) session machine count true session := by
  induction limit generalizing machine count with
  | zero => exact absurd first.1.1 (by omega)
  | succ limit ih =>
    rw [leaveLine]
    rcases first.eq_one_or with ⟨rfl, here⟩ | ⟨rest, rfl, further, later⟩
    · refine takes_stepOver.bind_succ (takes_readRegisters.bind_still ?_)
      show Takes .native
        (if !range.contains (Simulator.stepOver machine).registers.pc then _ else _) _ _ 0 _ _
      rw [here]
      exact takes_pure true
    · refine takes_stepOver.bind_succ (takes_readRegisters.bind_still ?_)
      show Takes .native
        (if !range.contains (Simulator.stepOver machine).registers.pc then _ else _) _ _ rest _ _
      rw [Bool.eq_true_of_not_eq_false further]
      refine takes_isCancelled.bind_still ?_
      exact ih later (by omega)

theorem takes_nextLine {lineAt : UInt16 → Option LineRange}
    (leaves : machine.LeavesLine lineAt count) (enough : count ≤ limit) :
    Takes .native (nextLine limit lineAt) session machine count true session := by
  rw [nextLine]
  refine takes_readRegisters.bind_still ?_
  show Takes .native (leaveLine (lineAt machine.registers.pc) limit) session machine count true
    session
  cases known : lineAt machine.registers.pc with
  | some range => exact takes_leaveLine ((Machine.leavesLine_known known).mp leaves) enough
  | none =>
    rw [Machine.leavesLine_unknown known] at leaves
    subst leaves
    obtain ⟨rest, rfl⟩ := Nat.exists_eq_succ_of_ne_zero (Nat.ne_of_gt enough)
    exact takes_stepOver.bind_succ (takes_pure true)

theorem takes_repeatStep {one : Action Bool} {round : Machine → Nat → Prop} {counts : List Nat}
    (each : ∀ {machine moves}, round machine moves →
      Takes stride one session machine moves true session)
    (rounds : Rounds stride.move round machine counts) :
    Takes stride (repeatStep one counts.length) session machine counts.sum
      (.completed (stride.move^[counts.sum] machine).registers.pc)
      { session with state := .stopped } := by
  induction rounds with
  | none machine => exact takes_complete
  | more first rest ih =>
    rw [List.length_cons, repeatStep, iterate_sum_cons, List.sum_cons]
    refine takes_isCancelled.bind_still ?_
    rw [if_neg Bool.false_ne_true]
    refine (each first).bind ?_
    exact ih

section Command

variable {target : Simulator} {lineAt : UInt16 → Option LineRange} {counts : List Nat}

theorem calm_start (ready : target.Ready) (stopped : target.running = false)
    (unwilling : target.cancelAt = none) (lowered : session.cancelled = false) :
    (Transport.interrupted target).2.Calm session target.machine :=
  ⟨⟨ready.quiet, stopped, rfl⟩, ready.working, lowered, rfl, unwilling⟩

theorem command_of_rounds {one : Action Bool} {round : Machine → Nat → Prop} (ready : target.Ready)
    (stopped : target.running = false) (unwilling : target.cancelAt = none)
    (legible : session.Legible target.machine)
    (each : ∀ {session machine moves}, round machine moves →
      Takes stride one session machine moves true session)
    (rounds : Rounds stride.move round target.machine counts) :
    ∃ final,
      (command do
        enter .running
        repeatStep one counts.length).through session target =
          ((.ok (.completed final.machine.registers.pc),
            { session with cancelled := false, frame := {}, state := .stopped }), final) ∧
      final.machine = stride.move^[counts.sum] target.machine ∧
      machinesAt stride.command (command do
        enter .running
        repeatStep one counts.length) session target =
          List.iterate stride.move target.machine counts.sum := by
  let started : Session := { session with cancelled := false, frame := {} }
  have calm : (Transport.interrupted target).2.Calm started target.machine :=
    calm_start ready stopped unwilling rfl
  have taken : Takes stride (enter .running >>= fun _ => repeatStep one counts.length) started
      target.machine counts.sum _ _ :=
    (takes_enter .running).bind_still (takes_repeatStep each rounds)
  obtain ⟨final, led, ending, -, met⟩ := taken _ calm legible
  refine ⟨final, ?_, ending.holds, ?_⟩
  · rw [ending.holds]
    exact command_eq_ok.mpr led
  · rw [machinesAt, transcript_command]
    exact met

theorem stepOverBy_software_of_rounds (lineAt : UInt16 → Option LineRange) (ready : target.Ready)
    (stopped : target.running = false) (unwilling : target.cancelAt = none)
    (legible : session.Legible target.machine)
    (rounds : Rounds execute (fun machine steps => machine.StepsOver steps ∧ steps ≤ limit)
      target.machine counts) :
    ∃ final, (stepOverBy limit counts.length false lineAt).through session target =
        ((.ok (.completed final.machine.registers.pc),
          { session with cancelled := false, frame := {}, state := .stopped }), final) ∧
      final.machine = execute^[counts.sum] target.machine := by
  obtain ⟨final, led, ending, -⟩ := command_of_rounds ready stopped unwilling legible
    (fun passes => takes_nextInstruction passes.1 passes.2) rounds
  exact ⟨final, led, ending⟩

theorem stepOverBy_hardware_of_rounds (ready : target.Ready) (stopped : target.running = false)
    (unwilling : target.cancelAt = none) (legible : session.Legible target.machine)
    (rounds : Rounds Simulator.stepOver (fun machine moves => machine.LeavesLine lineAt moves ∧
      moves ≤ limit) target.machine counts) :
    ∃ final, (stepOverBy limit counts.length true lineAt).through session target =
        ((.ok (.completed final.machine.registers.pc),
          { session with cancelled := false, frame := {}, state := .stopped }), final) ∧
      final.machine = Simulator.stepOver^[counts.sum] target.machine ∧
      machinesAt .stepOver (stepOverBy limit counts.length true lineAt) session target =
        List.iterate Simulator.stepOver target.machine counts.sum :=
  command_of_rounds ready stopped unwilling legible
    (fun leaves => takes_nextLine leaves.1 leaves.2) rounds

theorem readRegisters_illegible (calm : simulator.Calm session machine)
    (illegible : ¬ session.Legible machine) :
    ∃ failure after, (onLink (·.readRegisters)).through session simulator =
      ((.error failure, session), after) := by
  have still : simulator.polled.machine = machine := calm.polled.holds
  rw [through_onLink]
  cases shown : Text.words machine.registers.flags with
  | nil =>
    rw [← still] at shown
    rw [Simulator.through_readRegisters_of_blank calm.quiet (calm.takes _) shown]
    exact ⟨_, _, rfl⟩
  | cons flags others =>
    have few : ¬ 3 ≤ session.link.reads := fun enough =>
      illegible ⟨enough, by rw [shown]; exact List.cons_ne_nil _ _⟩
    rw [← still] at shown
    rw [Simulator.through_readRegisters calm.quiet (calm.takes _) (congrArg List.head? shown),
      if_neg few]
    exact ⟨_, _, rfl⟩

theorem repeatStep_of_error {one : Action Bool} {failure : Failure}
    (calm : simulator.Calm session machine)
    (reading : (onLink (·.readRegisters)).through session simulator =
      ((.error failure, session), after))
    (first : one.through session simulator = ((.error failure, session), after)) :
    (repeatStep one count).through session simulator = ((.error failure, session), after) := by
  cases count with
  | zero => exact through_bind_of_error reading
  | succ count =>
    rw [repeatStep, through_bind_of_ok (isCancelled_calm calm)]
    exact through_bind_of_error first

theorem stepOverBy_illegible (limit count : Nat) (lineAt : UInt16 → Option LineRange)
    (ready : target.Ready) (stopped : target.running = false) (unwilling : target.cancelAt = none)
    (illegible : ¬ session.Legible target.machine) :
    (stepOverBy limit count true lineAt).through session target =
      (stepOverBy limit count false lineAt).through session target := by
  let started : Session := { session with cancelled := false, frame := {}, state := .running }
  have calm : (Transport.interrupted target).2.Calm started target.machine :=
    calm_start ready stopped unwilling rfl
  obtain ⟨failure, after, reading⟩ := readRegisters_illegible calm illegible
  have hardware : (nextLine limit lineAt).through started (Transport.interrupted target).2 =
      ((.error failure, started), after) := through_bind_of_error reading
  have software : (nextInstruction limit).through started (Transport.interrupted target).2 =
      ((.error failure, started), after) :=
    through_bind_of_error (through_bind_of_error reading)
  have both (way : Bool) : (stepOverBy limit count way lineAt).through session target =
      ((.error failure, { started with state := .stopped }), after) := by
    rw [stepOverBy, through_command, through_bind_of_ok (through_enter _ _ _)]
    cases way
    · rw [if_neg Bool.false_ne_true, repeatStep_of_error calm reading software]
    · rw [if_pos rfl, repeatStep_of_error calm reading hardware]
  rw [both, both]

/-- The two ways of stepping over agree where every call that is stepped over comes back within the
limit of the monitor: in the result, and in the registers and the memory that they leave. With
source lines, the monitor's own step over is sent in each round as often as it takes to be outside
the line at which the round starts for the first time. -/
theorem stepOver_ways_agree {target : Simulator} (ready : target.Ready)
    (stopped : target.running = false) (unwilling : target.cancelAt = none) :
    (∀ counts limit,
      Rounds execute (fun machine steps => machine.StepsOver steps ∧
        steps ≤ Simulator.stepOverLimit) target.machine counts →
      Simulator.stepOverLimit ≤ limit →
        ((stepOver limit counts.length true none).through session target).1 =
          ((stepOver limit counts.length false none).through session target).1 ∧
        ((stepOver limit counts.length true none).through session target).2.machine =
          ((stepOver limit counts.length false none).through session target).2.machine ∧
        (session.Legible target.machine →
          ((stepOver limit counts.length true none).through session target).1.1 =
            .ok (.completed (execute^[counts.sum] target.machine).registers.pc) ∧
          ((stepOver limit counts.length true none).through session target).2.machine =
            execute^[counts.sum] target.machine)) ∧
    (∀ lineAt counts limit,
      Rounds Simulator.stepOver (fun machine moves => machine.LeavesLine lineAt moves ∧
        moves ≤ limit) target.machine counts →
      session.Legible target.machine →
        ∃ next final, (stepOverBy limit counts.length true lineAt).through session target =
            ((.ok (.completed final.machine.registers.pc), next), final) ∧
          final.machine = Simulator.stepOver^[counts.sum] target.machine ∧
          machinesAt .stepOver (stepOverBy limit counts.length true lineAt) session target =
            List.iterate Simulator.stepOver target.machine counts.sum) ∧
    ∀ lineAt count limit pc next final,
      (stepOverBy limit count true lineAt).through session target =
          ((.ok (.completed pc), next), final) →
        ∃ counts, Rounds Simulator.stepOver (LeavesLine lineAt) target.machine counts ∧
          counts.length = count ∧
          final.machine = Simulator.stepOver^[counts.sum] target.machine ∧
          pc = final.machine.registers.pc := by
  refine ⟨?_, ?_, ?_⟩
  · intro counts limit rounds enough
    have plain (way : Bool) : stepOver limit counts.length way none =
        stepOverBy limit counts.length way fun _ => none := rfl
    by_cases legible : session.Legible target.machine
    · obtain ⟨single, same⟩ := Machine.stepOver_rounds rounds
      have instructions : Rounds execute (fun machine steps => machine.StepsOver steps ∧
          steps ≤ limit) target.machine counts :=
        rounds.imp fun _ _ passes => ⟨passes.1, passes.2.trans enough⟩
      have lines : Rounds Simulator.stepOver (fun machine moves =>
          machine.LeavesLine (fun _ => none) moves ∧ moves ≤ limit) target.machine
            (List.replicate counts.length 1) := by
        refine single.imp fun machine moves once => ?_
        subst once
        exact ⟨rfl, Nat.le_trans (by decide) enough⟩
      obtain ⟨slow, software, walked⟩ :=
        stepOverBy_software_of_rounds (fun _ => none) ready stopped unwilling legible instructions
      obtain ⟨fast, hardware, leapt, -⟩ :=
        stepOverBy_hardware_of_rounds ready stopped unwilling legible lines
      rw [List.length_replicate] at hardware
      rw [List.sum_replicate_nat, Nat.mul_one, same] at leapt
      have meets : fast.machine = slow.machine := leapt.trans walked.symm
      rw [plain, plain, hardware, software, meets, walked]
      exact ⟨rfl, rfl, fun _ => ⟨rfl, rfl⟩⟩
    · have same := stepOverBy_illegible limit counts.length (fun _ => none) ready stopped unwilling
        legible
      rw [plain, plain, same]
      exact ⟨rfl, rfl, fun readable => absurd readable legible⟩
  · intro lineAt counts limit rounds legible
    obtain ⟨final, led, ending, met⟩ :=
      stepOverBy_hardware_of_rounds ready stopped unwilling legible rounds
    exact ⟨_, final, led, ending, met⟩
  · intro lineAt count limit pc next final led
    have paused : target.Paused target.machine := ⟨ready.quiet, stopped, rfl⟩
    obtain ⟨counts, made, length, ending, here⟩ := stepOverBy_hardware_eq_ok paused led
    exact ⟨counts, made, length, ending.holds, here.trans (by rw [ending.holds])⟩

theorem stepOver_ways_agree_call :
    ((stepOver 10000 1 true none).through {} Simulator.calling).1 =
        ((stepOver 10000 1 false none).through {} Simulator.calling).1 ∧
      ((stepOver 10000 1 true none).through {} Simulator.calling).2.machine =
        execute^[3] Simulator.calling.machine ∧
      ∃ next final, (stepOverBy 2 1 true fun _ => some ⟨0x2000, 0x2003⟩).through {}
          Simulator.calling = ((.ok (.completed final.machine.registers.pc), next), final) ∧
        final.machine = Simulator.stepOver^[2] Simulator.calling.machine ∧
        ∃ counts, Rounds Simulator.stepOver (LeavesLine fun _ => some ⟨0x2000, 0x2003⟩)
          Simulator.calling.machine counts ∧ counts.length = 1 := by
  have ready : Simulator.calling.Ready := ⟨rfl, rfl⟩
  have legible : Session.Legible {} Simulator.calling.machine := ⟨by decide, by decide⟩
  have call : Simulator.calling.machine.current.isCall = true := by decide +kernel
  have passes : Simulator.calling.machine.StepsOver 3 :=
    (Machine.stepsOver_call call).mpr (by decide +kernel)
  have leaves : LeavesLine (fun _ => some ⟨0x2000, 0x2003⟩) Simulator.calling.machine 2 :=
    (Machine.leavesLine_known rfl).mpr (by decide +kernel)
  obtain ⟨agreeing, leaving, completed⟩ := @stepOver_ways_agree {} Simulator.calling ready rfl rfl
  obtain ⟨same, -, known⟩ := agreeing [3] 10000 (.more ⟨passes, by decide⟩ (.none _))
    (Nat.le_refl _)
  obtain ⟨next, final, led, ended, -⟩ := leaving _ [2] 2 (.more ⟨leaves, Nat.le_refl 2⟩ (.none _))
    legible
  obtain ⟨counts, made, length, -⟩ := completed _ _ _ _ _ _ led
  exact ⟨same, (known legible).2, next, final, led, ended, counts, made, length⟩

end Command

end Action

end RemoteDebugger
