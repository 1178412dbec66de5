import RemoteDebugger.Proofs.Monitor.Command
import RemoteDebugger.Proofs.Session.Action

/-!
Transcripts. The transcript of a dialogue over a transport is the list of the lines that it sends,
each with the other side as it is when the line is sent. A sequence of actions sends what its first
part sends and then, if that succeeds, what the rest sends; a question sends its command and nothing
else.
-/

set_option autoImplicit false

namespace RemoteDebugger

/-- A line that is sent, and the other side just before it takes the line. -/
structure Sending (τ : Type) where
  line : Text
  remote : τ

variable {α β τ : Type} [Transport τ]

namespace Dialogue

def transcript : Dialogue α → τ → List (Sending τ)
  | done _, _ => []
  | send line next, remote =>
    ⟨line, remote⟩ :: (next (Transport.send remote line).1).transcript (Transport.send remote line).2
  | receive next, remote =>
    (next (Transport.receive remote).1).transcript (Transport.receive remote).2
  | pause _ next, remote => next.transcript remote
  | interrupted next, remote =>
    (next (Transport.interrupted remote).1).transcript (Transport.interrupted remote).2

theorem transcript_bind (dialogue : Dialogue α) (rest : α → Dialogue β) (remote : τ) :
    (dialogue >>= rest).transcript remote = dialogue.transcript remote ++
      (rest (dialogue.through remote).1).transcript (dialogue.through remote).2 := by
  show (dialogue.bind rest).transcript remote = _
  induction dialogue generalizing remote with
  | done value => rfl
  | send line next ih => exact congrArg (⟨line, remote⟩ :: ·) (ih _ _)
  | receive next ih => exact ih _ _
  | pause milliseconds next ih => exact ih _
  | interrupted next ih => exact ih _ _

end Dialogue

namespace Exchange

def transcript (exchange : Exchange α) (remote : τ) : List (Sending τ) :=
  Dialogue.transcript exchange.run remote

theorem transcript_bind (exchange : Exchange α) (rest : α → Exchange β) (remote : τ) :
    (exchange >>= rest).transcript remote = exchange.transcript remote ++
      match exchange.through remote with
      | (.ok value, after) => (rest value).transcript after
      | (.error _, _) => [] := by
  rw [transcript, ExceptT.run_bind, Dialogue.transcript_bind]
  show _ = _ ++ match Dialogue.through exchange.run remote with
    | (.ok value, after) => (rest value).transcript after
    | (.error _, _) => []
  rcases Dialogue.through exchange.run remote with ⟨_ | value, after⟩ <;> rfl

theorem transcript_send (line : Text) (remote : τ) :
    (send line).transcript remote = [⟨line, remote⟩] := by
  show ⟨line, remote⟩ :: Dialogue.transcript _ (Transport.send remote line).2 = _
  rcases Transport.send remote line with ⟨_ | _, after⟩ <;> rfl

theorem transcript_receive (remote : τ) : receive.transcript remote = [] := by
  show Dialogue.transcript _ (Transport.receive remote).2 = _
  rcases Transport.receive remote with ⟨_ | _, after⟩ <;> rfl

end Exchange

namespace Link

variable (link : Link) (command : Command) (read? : Text → Option α) (remote : τ)

theorem transcript_awaitWithin (line : Text) (count : Nat) :
    (link.awaitWithin line read? count).transcript remote = [] := by
  induction count generalizing remote with
  | zero => rfl
  | succ count ih =>
    rw [awaitWithin, Exchange.transcript_bind, Exchange.transcript_receive, List.nil_append]
    split
    · rename_i answer after _
      cases answer with
      | none => exact ih after
      | some line =>
        simp only
        split
        · rfl
        · exact ih after
    · rfl

theorem transcript_ask :
    (link.ask command read?).transcript remote = [⟨command.line, remote⟩] := by
  rw [ask, Exchange.transcript_bind, Exchange.transcript_send]
  split
  · rw [await, transcript_awaitWithin, List.append_nil]
  · rfl

theorem transcript_bulkLines (indices : List Nat) :
    (link.bulkLines command indices).transcript remote = [] := by
  induction indices generalizing remote with
  | nil => rfl
  | cons index indices ih =>
    rw [bulkLines, Exchange.transcript_bind, await, transcript_awaitWithin, List.nil_append]
    split
    · rename_i line after _
      cases Window.ofLine? line with
      | none => rfl
      | some window =>
        simp only
        rw [Exchange.transcript_bind, ih, List.nil_append]
        split <;> rfl
    · rfl

theorem transcript_readBulk (address : Address) :
    (link.readBulk address).transcript remote =
      [⟨(Command.readBulk address.physical).line, remote⟩] := by
  rw [readBulk, Exchange.transcript_bind, transcript_ask]
  split
  · rw [Exchange.transcript_bind, transcript_bulkLines, List.nil_append]
    split <;> rfl
  · rfl

end Link

namespace Action

variable {session : Session} {remote : τ}

def transcript (action : Action α) (session : Session) (remote : τ) : List (Sending τ) :=
  Dialogue.transcript (action.run.run session) remote

@[simp] theorem transcript_pure (value : α) (session : Session) (remote : τ) :
    (pure value : Action α).transcript session remote = [] :=
  rfl

theorem transcript_bind (action : Action α) (rest : α → Action β) (session : Session) (remote : τ) :
    (action >>= rest).transcript session remote = action.transcript session remote ++
      match action.through session remote with
      | ((.ok value, next), after) => (rest value).transcript next after
      | ((.error _, _), _) => [] := by
  rw [transcript, ExceptT.run_bind, StateT.run_bind, Dialogue.transcript_bind]
  show _ = _ ++ match Dialogue.through (action.run.run session) remote with
    | ((.ok value, next), after) => (rest value).transcript next after
    | ((.error _, _), _) => []
  rcases Dialogue.through (action.run.run session) remote with ⟨⟨_ | value, next⟩, after⟩ <;> rfl

theorem mem_transcript_bind {action : Action α} {rest : α → Action β} {sending : Sending τ} :
    sending ∈ (action >>= rest).transcript session remote ↔
      sending ∈ action.transcript session remote ∨
        ∃ middle next after, action.through session remote = ((.ok middle, next), after) ∧
          sending ∈ (rest middle).transcript next after := by
  rw [transcript_bind, List.mem_append]
  rcases action.through session remote with ⟨⟨failure | middle, next⟩, after⟩
  · simp
  · constructor
    · rintro (first | later)
      · exact .inl first
      · exact .inr ⟨middle, next, after, rfl, later⟩
    · rintro (first | ⟨middle, next, after, same, later⟩)
      · exact .inl first
      · cases same
        exact .inr later

theorem transcript_onLink (exchange : Link → Exchange α) (session : Session) (remote : τ) :
    (onLink exchange).transcript session remote = (exchange session.link).transcript remote := by
  show Dialogue.transcript ((exchange session.link).run >>= _) remote = _
  rw [Dialogue.transcript_bind]
  show _ ++ _ = Dialogue.transcript (exchange session.link).run remote
  rcases Dialogue.through (exchange session.link).run remote with ⟨_ | value, after⟩ <;>
    exact List.append_nil _

theorem transcript_command (body : Action α) (session : Session) (remote : τ) :
    (command body).transcript session remote =
      body.transcript { session with cancelled := false, frame := {} }
        (Transport.interrupted remote).2 := by
  show Dialogue.transcript (body.run.run { session with cancelled := false, frame := {} } >>= _)
    (Transport.interrupted remote).2 = _
  rw [Dialogue.transcript_bind]
  show _ ++ _ = Dialogue.transcript (body.run.run { session with cancelled := false, frame := {} })
    (Transport.interrupted remote).2
  rcases Dialogue.through (body.run.run { session with cancelled := false, frame := {} })
    (Transport.interrupted remote).2 with ⟨⟨failure | value, next⟩, after⟩ <;>
    exact List.append_nil _

/-- An action that never sends a command, whatever the other side is and does. -/
def NeverSends (command : Command) (action : Action α) : Prop :=
  ∀ ⦃τ : Type⦄ [Transport τ] (session : Session) (remote : τ),
    ∀ sending ∈ action.transcript session remote, sending.line ≠ command.line

section NeverSends

variable {command : Command}

theorem neverSends_of_nil {action : Action α}
    (silent : ∀ {τ : Type} [Transport τ] (session : Session) (remote : τ),
      action.transcript session remote = []) : action.NeverSends command := by
  intro _ _ session remote sending sent
  rw [silent session remote] at sent
  exact absurd sent List.not_mem_nil

theorem NeverSends.bind {action : Action α} {rest : α → Action β}
    (first : action.NeverSends command) (later : ∀ value, (rest value).NeverSends command) :
    (action >>= rest).NeverSends command := by
  intro _ _ session remote sending sent
  rcases mem_transcript_bind.mp sent with sent | ⟨value, next, after, -, sent⟩
  · exact first session remote sending sent
  · exact later value next after sending sent

theorem neverSends_ask {asked : Command} (other : asked.line ≠ command.line)
    (read? : Text → Option α) : (onLink (·.ask asked read?)).NeverSends command := by
  intro _ _ session remote sending sent
  rw [transcript_onLink, Link.transcript_ask, List.mem_singleton] at sent
  rwa [sent]

theorem neverSends_pure (value : α) : (pure value : Action α).NeverSends command :=
  neverSends_of_nil fun _ _ => rfl

theorem neverSends_throw (failure : Failure) : (throw failure : Action α).NeverSends command :=
  neverSends_of_nil fun _ _ => rfl

theorem neverSends_get : (get : Action Session).NeverSends command :=
  neverSends_of_nil fun _ _ => rfl

theorem neverSends_set (session : Session) : (set session : Action PUnit).NeverSends command :=
  neverSends_of_nil fun _ _ => rfl

theorem neverSends_modify (change : Session → Session) :
    (modify change : Action PUnit).NeverSends command :=
  neverSends_of_nil fun _ _ => rfl

theorem neverSends_pause : pause.NeverSends command :=
  neverSends_of_nil fun _ _ => rfl

theorem neverSends_isCancelled : isCancelled.NeverSends command :=
  neverSends_of_nil fun _ _ => rfl

end NeverSends

end Action

theorem Command.line_ne_start {command : Command} (other : command ≠ .setRunning true) :
    command.line ≠ (Command.setRunning true).line := by
  intro same
  have read := congrArg ofLine? same
  rw [ofLine?_line, ofLine?_line, Option.some_inj] at read
  cases command with
  | setRunning running =>
    exact other read
  | _ => simp [cut] at read

end RemoteDebugger
