import RemoteDebugger.Proofs.Session.Preservation
import RemoteDebugger.Proofs.Session.Removal

/-!
The commands that let the processor run, over an arbitrary other side. Whatever lines come back, and
whenever the device fails or the operator asks to stop, such a command leaves the session stopped
with the first frame selected; and if it says that it was cancelled, then the last line that it sent
stops the processor.
-/

set_option autoImplicit false

namespace RemoteDebugger

variable {α β τ : Type} [Transport τ] {property : Session → τ → Prop} {legal : Sending τ → Prop}

/-- What an execution command does once the flag is lowered and the first frame selected. -/
def ExecutionCommand.body : ExecutionCommand → Action StopReason
  | resume rounds target software => Action.runToStall rounds target software
  | step count => do
    Action.enter .running
    Action.stepTimes count
  | stepOver rounds count hardware lineAt => do
    Action.enter .running
    Action.repeatStep
      (if hardware then Action.nextLine rounds lineAt else Action.nextInstruction rounds) count
  | finish rounds => do
    Action.enter .running
    let registers ← Action.onLink (·.readRegisters)
    Action.runToReturn rounds registers.sp rounds

theorem ExecutionCommand.action_eq (command : ExecutionCommand) :
    command.action = Action.command command.body := by
  cases command <;> rfl

/-- An invariant that does not depend on the execution state either. -/
structure Session.RunningInvariant (property : Session → τ → Prop) (legal : Sending τ → Prop) :
    Prop extends Session.Invariant property legal where
  entered : ∀ (session : Session) remote state, property session remote →
    property { session with state } remote

namespace Session.RunningInvariant

open RemoteDebugger.Action (keeps_pure keeps_throw keeps_get keeps_pause keeps_modify)

variable (kept : Session.RunningInvariant property legal)

include kept

theorem enter (state : RunState) : (Action.enter state).Keeps property legal :=
  keeps_modify fun session remote holds => kept.entered session remote state holds

theorem abort : Action.abort.Keeps property legal := by
  apply (kept.setRunning false).bind
  intro _
  exact (kept.enter .stopped).bind fun _ => keeps_pure StopReason.cancelled

theorem complete : Action.complete.Keeps property legal := by
  apply kept.readRegisters.bind
  intro registers
  exact (kept.enter .stopped).bind fun _ => keeps_pure _

theorem prepareTarget (target : Option UInt32) (software : Bool) :
    (Action.prepareTarget target software).Keeps property legal := by
  cases target with
  | none => exact keeps_pure ()
  | some address =>
    cases software with
    | false => exact kept.onLink (.setBreakpoint address.toUInt16)
    | true =>
      have arming : (do let _ ← Action.setSoftwareBreakpoint address : Action Unit).Keeps property
          legal :=
        (kept.setSoftwareBreakpoint address).bind fun _ => keeps_pure ()
      apply kept.readRegisters.bind
      intro registers
      simp only
      split
      · exact kept.singleStep.bind fun _ => arming
      · exact arming

theorem stalled (pc : UInt16) : (Action.stalled pc).Keeps property legal := by
  apply keeps_get.bind
  intro session
  apply (kept.enter .stopped).bind
  intro _
  split
  · exact kept.clearSoftwareBreakpoint.bind fun _ => keeps_pure _
  · exact keeps_pure _

theorem awaitStall (left : Nat) (count : StallCount) :
    (Action.awaitStall left count).Keeps property legal := by
  induction left generalizing count with
  | zero => exact keeps_throw .unfinished
  | succ left ih =>
    apply kept.isCancelled.bind
    intro cancelled
    split
    · exact kept.abort
    · apply keeps_pause.bind
      intro _
      apply keeps_get.bind
      intro session
      apply kept.readRegisters.bind
      intro registers
      simp only
      split
      · exact ih _
      · exact kept.stalled registers.pc

theorem runToStall (rounds : Nat) (target : Option UInt32) (software : Bool) :
    (Action.runToStall rounds target software).Keeps property legal := by
  apply (kept.prepareTarget target software).bind
  intro _
  apply (kept.setRunning true).bind
  intro _
  apply keeps_get.bind
  intro session
  exact (kept.enter _).bind fun _ => kept.awaitStall rounds {}

theorem stepTimes (count : Nat) : (Action.stepTimes count).Keeps property legal := by
  induction count with
  | zero => exact kept.complete
  | succ count ih =>
    apply kept.isCancelled.bind
    intro cancelled
    split
    · exact kept.abort
    · exact kept.singleStep.bind fun _ => ih

theorem stepUntil (address : UInt16) (left : Nat) :
    (Action.stepUntil address left).Keeps property legal := by
  induction left with
  | zero => exact keeps_throw .unfinished
  | succ left ih =>
    apply kept.isCancelled.bind
    intro cancelled
    split
    · exact keeps_pure false
    · apply kept.singleStep.bind
      intro _
      apply kept.readRegisters.bind
      intro registers
      split
      · exact keeps_pure true
      · exact ih

theorem nextInstruction (rounds : Nat) : (Action.nextInstruction rounds).Keeps property legal := by
  apply kept.currentInstruction.bind
  intro current
  simp only
  split
  · exact kept.stepUntil _ rounds
  · exact kept.singleStep.bind fun _ => keeps_pure true

theorem leaveLine (line : Option LineRange) (left : Nat) :
    (Action.leaveLine line left).Keeps property legal := by
  induction left with
  | zero => exact keeps_throw .unfinished
  | succ left ih =>
    apply (kept.onLink .stepOver).bind
    intro _
    cases line with
    | none => exact keeps_pure true
    | some range =>
      apply kept.readRegisters.bind
      intro registers
      split
      · exact keeps_pure true
      · apply kept.isCancelled.bind
        intro cancelled
        split
        · exact keeps_pure false
        · exact ih

theorem nextLine (rounds : Nat) (lineAt : UInt16 → Option LineRange) :
    (Action.nextLine rounds lineAt).Keeps property legal :=
  kept.readRegisters.bind fun _ => kept.leaveLine _ rounds

theorem repeatStep {one : Action Bool} (once : one.Keeps property legal) (count : Nat) :
    (Action.repeatStep one count).Keeps property legal := by
  induction count with
  | zero => exact kept.complete
  | succ count ih =>
    apply kept.isCancelled.bind
    intro cancelled
    split
    · exact kept.abort
    · apply once.bind
      intro completed
      split
      · exact ih
      · exact kept.abort

theorem runToReturn (rounds : Nat) (entry : UInt16) (left : Nat) :
    (Action.runToReturn rounds entry left).Keeps property legal := by
  induction left with
  | zero => exact keeps_throw .unfinished
  | succ left ih =>
    apply kept.isCancelled.bind
    intro cancelled
    split
    · exact kept.abort
    · apply kept.currentInstruction.bind
      intro current
      apply (kept.nextInstruction rounds).bind
      intro completed
      split
      · exact kept.abort
      · split
        · exact kept.complete
        · exact ih

theorem body (command : ExecutionCommand) : command.body.Keeps property legal := by
  cases command with
  | resume rounds target software => exact kept.runToStall rounds target software
  | step count => exact (kept.enter .running).bind fun _ => kept.stepTimes count
  | stepOver rounds count hardware lineAt =>
    apply (kept.enter .running).bind
    intro _
    cases hardware with
    | false => exact kept.repeatStep (kept.nextInstruction rounds) count
    | true => exact kept.repeatStep (kept.nextLine rounds lineAt) count
  | finish rounds =>
    apply (kept.enter .running).bind
    intro _
    apply kept.readRegisters.bind
    intro registers
    exact kept.runToReturn rounds registers.sp rounds

theorem action {held : Session → τ → Prop} (command : ExecutionCommand)
    (started : ∀ session remote, held session remote →
      property { session with cancelled := false, frame := {} } (Transport.interrupted remote).2)
    (ended : ∀ session remote, property session remote → held session remote) :
    command.action.Keeps held legal := by
  intro session remote holds
  obtain ⟨after, sent⟩ := kept.body command { session with cancelled := false, frame := {} }
    (Transport.interrupted remote).2 (started session remote holds)
  rw [ExecutionCommand.action_eq, Action.through_command, Action.transcript_command]
  refine ⟨?_, sent⟩
  rcases led : command.body.through { session with cancelled := false, frame := {} }
    (Transport.interrupted remote).2 with ⟨⟨failure | reason, next⟩, final⟩
  · rw [led] at after
    exact ended _ _ (kept.entered next final .stopped after)
  · rw [led] at after
    exact ended _ _ after

end Session.RunningInvariant

theorem Session.invariant_of_held {held : Session → Prop}
    (breakpoint : ∀ session breakpoint, held session →
      held { session with breakpoint := breakpoint })
    (cancelled : ∀ session cancelled, held session → held { session with cancelled := cancelled }) :
    Session.Invariant (fun session (_ : τ) => held session) fun _ => True where
  link session := {
    readRegisters := Exchange.keeps_const session.link.readRegisters
    readWindow := fun address => Exchange.keeps_const (session.link.readWindow address)
    readBulk := fun address => Exchange.keeps_const (session.link.readBulk address)
    tell := fun command _ => Exchange.keeps_const (session.link.tell command) }
  asked _ _ holds := holds
  breakpoint session _ slot holds := breakpoint session slot holds
  cancelled session _ flag holds := cancelled session flag holds

theorem Session.runningInvariant_frame :
    Session.RunningInvariant (fun session (_ : τ) => session.frame = {}) fun _ => True where
  toInvariant := Session.invariant_of_held (fun _ _ framed => framed) fun _ _ framed => framed
  entered _ _ _ framed := framed

/-! The end of an execution command. -/

namespace Action

/-- The last of the lines stops the processor. -/
def EndsStopping (sent : List (Sending τ)) : Prop :=
  ∃ earlier, sent.map Sending.line = earlier ++ [(Command.setRunning false).line]

omit [Transport τ] in
theorem EndsStopping.append {sent : List (Sending τ)} (stops : EndsStopping sent)
    (before : List (Sending τ)) : EndsStopping (before ++ sent) := by
  obtain ⟨earlier, lines⟩ := stops
  exact ⟨before.map Sending.line ++ earlier, by
    rw [List.map_append, lines, List.append_assoc]⟩

/-- An action that gives a reason leaves the session stopped, and if the reason is the operator's
wish, then the last line that it sends stops the processor. -/
def Concludes (τ : Type) [Transport τ] (action : Action StopReason) : Prop :=
  ∀ (session next : Session) (remote after : τ) (reason : StopReason),
    action.through session remote = ((.ok reason, next), after) →
      next.state = .stopped ∧
        (reason = .cancelled → EndsStopping (action.transcript session remote))

theorem concludes_bind {action : Action α} {rest : α → Action StopReason}
    (later : ∀ value, (rest value).Concludes τ) : (action >>= rest).Concludes τ := by
  intro session next remote after reason led
  rw [bind_eq_ok] at led
  obtain ⟨value, middle, between, first, led⟩ := led
  obtain ⟨stopped, ends⟩ := later value middle next between after reason led
  refine ⟨stopped, ?_⟩
  intro cancelled
  rw [transcript_bind, first]
  exact (ends cancelled).append _

theorem concludes_throw (failure : Failure) : (throw failure : Action StopReason).Concludes τ := by
  intro session next remote after reason led
  rw [through_throw] at led
  simp at led

theorem concludes_abort : abort.Concludes τ := by
  intro session next remote after reason led
  rw [abort, bind_eq_ok] at led
  obtain ⟨_, middle, between, halted, led⟩ := led
  rw [through_bind_of_ok (through_enter _ _ _), through_pure] at led
  cases led
  refine ⟨rfl, ?_⟩
  intro _
  have sent : (onLink (·.setRunning false)).transcript session remote =
      [⟨(Command.setRunning false).line, remote⟩] := by
    rw [transcript_onLink]
    exact Link.transcript_ask _ _ _ _
  rw [abort, transcript_bind, halted, sent]
  exact ⟨[], rfl⟩

theorem concludes_complete : complete.Concludes τ := by
  apply concludes_bind
  intro registers session next remote after reason led
  rw [through_bind_of_ok (through_enter _ _ _), through_pure] at led
  cases led
  exact ⟨rfl, StopReason.noConfusion⟩

/-- The state is changed before the breakpoint is removed, and the removal leaves it as it is. -/
theorem concludes_stalled (pc : UInt16) : (stalled pc).Concludes τ := by
  apply concludes_bind
  intro before session next remote after reason led
  rw [through_bind_of_ok (through_enter _ _ _)] at led
  split at led
  · rw [bind_eq_ok] at led
    obtain ⟨removed, middle, between, cleared, led⟩ := led
    rw [through_pure] at led
    cases led
    rw [clearSoftwareBreakpoint_session cleared]
    exact ⟨rfl, StopReason.noConfusion⟩
  · rw [through_pure] at led
    cases led
    exact ⟨rfl, StopReason.noConfusion⟩

theorem concludes_awaitStall (left : Nat) (count : StallCount) :
    (awaitStall left count).Concludes τ := by
  induction left generalizing count with
  | zero => exact concludes_throw .unfinished
  | succ left ih =>
    apply concludes_bind
    intro cancelled
    split
    · exact concludes_abort
    · -- A pause, a look at the session and a poll come before the round is decided.
      refine concludes_bind fun _ => concludes_bind fun session => concludes_bind fun registers => ?_
      simp only
      split
      · exact ih _
      · exact concludes_stalled registers.pc

theorem concludes_runToStall (rounds : Nat) (target : Option UInt32) (software : Bool) :
    (runToStall rounds target software).Concludes τ :=
  concludes_bind fun _ => concludes_bind fun _ => concludes_bind fun _ => concludes_bind fun _ =>
    concludes_awaitStall rounds {}

theorem concludes_stepTimes (count : Nat) : (stepTimes count).Concludes τ := by
  induction count with
  | zero => exact concludes_complete
  | succ count ih =>
    apply concludes_bind
    intro cancelled
    split
    · exact concludes_abort
    · exact concludes_bind fun _ => ih

theorem concludes_repeatStep (one : Action Bool) (count : Nat) :
    (repeatStep one count).Concludes τ := by
  induction count with
  | zero => exact concludes_complete
  | succ count ih =>
    apply concludes_bind
    intro cancelled
    split
    · exact concludes_abort
    · apply concludes_bind
      intro completed
      split
      · exact ih
      · exact concludes_abort

theorem concludes_runToReturn (rounds : Nat) (entry : UInt16) (left : Nat) :
    (runToReturn rounds entry left).Concludes τ := by
  induction left with
  | zero => exact concludes_throw .unfinished
  | succ left ih =>
    apply concludes_bind
    intro cancelled
    split
    · exact concludes_abort
    · refine concludes_bind fun current => concludes_bind fun completed => ?_
      split
      · exact concludes_abort
      · split
        · exact concludes_complete
        · exact ih

theorem concludes_body (command : ExecutionCommand) : command.body.Concludes τ := by
  cases command with
  | resume rounds target software => exact concludes_runToStall rounds target software
  | step count => exact concludes_bind fun _ => concludes_stepTimes count
  | stepOver rounds count hardware lineAt =>
    exact concludes_bind fun _ => concludes_repeatStep _ count
  | finish rounds =>
    exact concludes_bind fun _ => concludes_bind fun registers =>
      concludes_runToReturn rounds registers.sp rounds

/-- Whatever the other side does, an execution command leaves the session stopped with the first
frame selected, and if it was cancelled, the last line that it sent stops the processor. -/
theorem execution_concludes (command : ExecutionCommand) {session next : Session} {remote after : τ}
    {result : Except Failure StopReason}
    (led : command.action.through session remote = ((result, next), after)) :
    next.state = .stopped ∧ next.frame = {} ∧
      (result = .ok .cancelled → EndsStopping (command.action.transcript session remote)) := by
  have framed := ((Session.runningInvariant_frame (τ := τ)).body command
    { session with cancelled := false, frame := {} } (Transport.interrupted remote).2 rfl).1
  rw [ExecutionCommand.action_eq, through_command] at led
  rw [ExecutionCommand.action_eq, transcript_command]
  rcases body : command.body.through { session with cancelled := false, frame := {} }
    (Transport.interrupted remote).2 with ⟨⟨failure | reason, last⟩, final⟩
  · rw [body] at led framed
    cases led
    exact ⟨rfl, framed, fun cancelled => nomatch cancelled⟩
  · rw [body] at led framed
    cases led
    obtain ⟨stopped, ends⟩ := concludes_body command _ _ _ _ _ body
    exact ⟨stopped, framed, fun cancelled => ends (Except.ok.inj cancelled)⟩

end Action

end RemoteDebugger
