import RemoteDebugger.Proofs.Session.Execution

/-!
Uses of a session: operations one after another, over an arbitrary other side. What every operation
keeps, the whole use keeps, whichever of its operations fail. Only the commands that let the
processor run change the execution state, and they put it back, so between operations a session is
always stopped.
-/

set_option autoImplicit false

namespace RemoteDebugger

variable {α τ : Type} [Transport τ] {property : Session → τ → Prop} {legal : Sending τ → Prop}

theorem Session.Invariant.operation (kept : Session.Invariant property legal)
    (execution : ∀ command : ExecutionCommand, command.action.Keeps property legal)
    (moved : ∀ direction, (Action.moveFrame direction).Keeps property legal)
    (operation : Operation α) : operation.action.Keeps property legal := by
  cases operation with
  | link operation => exact kept.onLink operation
  | execution command => exact execution command
  | isStopped => exact kept.isStopped
  | setSoftwareBreakpoint address => exact kept.setSoftwareBreakpoint address
  | clearSoftwareBreakpoint => exact kept.clearSoftwareBreakpoint
  | setHardwareBreakpoint address => exact kept.onLink (.setBreakpoint address)
  | setPc address => exact kept.setPc address
  | assemble address line => exact kept.assembleAt address line
  | executeOneShot line => exact kept.executeOneShot line
  | disassemble address count => exact kept.disassembleAt address count
  | backtrace => exact kept.backtrace
  | moveFrame direction => exact moved direction
  | effectiveAddress => exact kept.effectiveAddress
  | locals functionAt => exact kept.localsBy functionAt
  | raiseFlag => exact kept.raiseFlag
  | lowerFlag => exact kept.lowerFlag

/-- The lines that a use of a session sends. -/
def Usage.transcript : Usage → Session → τ → List (Sending τ)
  | [], _, _ => []
  | ⟨_, operation⟩ :: others, session, remote =>
    let ((_, next), after) := operation.action.through session remote
    operation.action.transcript session remote ++ transcript others next after

theorem Usage.keeps (operation : ∀ {α : Type} (operation : Operation α),
      operation.action.Keeps property legal) (usage : Usage) {session : Session} {remote : τ}
    (holds : property session remote) :
    property (usage.through session remote).1 (usage.through session remote).2 ∧
      ∀ sending ∈ usage.transcript session remote, legal sending := by
  induction usage generalizing session remote with
  | nil =>
    refine ⟨holds, ?_⟩
    intro sending sent
    exact absurd sent List.not_mem_nil
  | cons first others ih =>
    obtain ⟨α, first⟩ := first
    obtain ⟨kept, sent⟩ := operation first session remote holds
    obtain ⟨keptLater, sentLater⟩ := ih kept
    refine ⟨keptLater, ?_⟩
    intro sending member
    rcases List.mem_append.mp member with early | late
    · exact sent sending early
    · exact sentLater sending late

/-- A session that waits for an operation, with a frame selected that the cursor can reach. -/
structure Session.Resting (session : Session) : Prop where
  stopped : session.state = .stopped
  framed : session.frame.index ≤ FrameCursor.limit

theorem FrameCursor.move_le_limit {cursor : FrameCursor} (small : cursor.index ≤ limit)
    (direction : FrameDirection) : (cursor.move direction).2.index ≤ limit := by
  cases direction with
  | up =>
    simp only [move]
    split
    · exact small
    · simp only
      omega
  | down =>
    simp only [move]
    split
    · exact small
    · simp only
      omega

theorem Operation.keeps_resting (operation : Operation α) :
    operation.action.Keeps (fun session (_ : τ) => session.Resting) fun _ => True := by
  apply Session.Invariant.operation
  · apply Session.invariant_of_held
    · intro session breakpoint rests
      exact ⟨rests.stopped, rests.framed⟩
    · intro session cancelled rests
      exact ⟨rests.stopped, rests.framed⟩
  · intro command session remote _
    rcases led : command.action.through session remote with ⟨⟨result, next⟩, after⟩
    obtain ⟨stopped, framed, -⟩ := Action.execution_concludes command led
    refine ⟨⟨stopped, ?_⟩, fun _ _ => trivial⟩
    rw [framed]
    exact Nat.zero_le _
  · intro direction session remote rests
    exact ⟨⟨rests.stopped, FrameCursor.move_le_limit rests.framed direction⟩,
      fun _ _ => trivial⟩

/-- Whatever the other side does and whatever is asked of it, a session rests after each operation.
An execution command, failed or not, leaves the first frame selected; and if it says that it was
cancelled, then the last line that it sent stops the processor. -/
theorem Usage.rests_after (config : Config) (usage : Usage) (remote : τ) :
    (usage.through { config } remote).1.Resting ∧
      ∀ (command : ExecutionCommand) (result : Except Failure StopReason) (next : Session)
        (after : τ),
        command.action.through (usage.through { config } remote).1
          (usage.through { config } remote).2 = ((result, next), after) →
        next.Resting ∧ next.frame.index = 0 ∧
          (result = .ok .cancelled → Action.EndsStopping
            (command.action.transcript (usage.through { config } remote).1
              (usage.through { config } remote).2)) := by
  have fresh : ({ config } : Session).Resting := ⟨rfl, Nat.zero_le _⟩
  refine ⟨(Usage.keeps Operation.keeps_resting usage fresh).1, ?_⟩
  intro command result next after led
  obtain ⟨stopped, framed, ends⟩ := Action.execution_concludes command led
  refine ⟨⟨stopped, ?_⟩, ?_, ends⟩
  · rw [framed]
    exact Nat.zero_le _
  · rw [framed]

theorem Usage.rests_after_cancelled :
    ∃ session remote next after,
      Usage.through [⟨_, .moveFrame .down⟩, ⟨_, .raiseFlag⟩] {} ({ cancelAt := some 0 } : Simulator) =
        (session, remote) ∧ session.frame.index = 1 ∧
      (Action.stepOverBy 5 2 false fun _ => none).through session remote =
        ((.ok .cancelled, next), after) ∧
      next.frame.index = 0 ∧
      Action.EndsStopping ((Action.stepOverBy 5 2 false fun _ => none).transcript session remote) := by
  have led := Action.eq_of_toOption (show ((Action.stepOverBy 5 2 false fun _ => none).through
    { frame := ⟨1⟩, cancelled := true } ({ cancelAt := some 0 } : Simulator)).1.1.toOption =
      some .cancelled by decide +kernel)
  obtain ⟨-, framed, ends⟩ := (rests_after {} [⟨_, .moveFrame .down⟩, ⟨_, .raiseFlag⟩]
    ({ cancelAt := some 0 } : Simulator)).2 (.stepOver 5 2 false fun _ => none) _ _ _ led
  exact ⟨_, _, _, _, rfl, rfl, led, framed, ends rfl⟩

end RemoteDebugger
