import RemoteDebugger.Proofs.Link.Exchange
import RemoteDebugger.Session.Running

/-!
Actions led through a transport. The parts of an action are led one after another, with the session
handed on; a failure keeps the session as it was and skips what follows.
-/

set_option autoImplicit false

namespace RemoteDebugger.Action

variable {α β τ : Type} [Transport τ] {session next : Session} {remote after : τ}

@[simp] theorem through_pure (value : α) (session : Session) (remote : τ) :
    (pure value : Action α).through session remote = ((.ok value, session), remote) :=
  rfl

@[simp] theorem through_throw (failure : Failure) (session : Session) (remote : τ) :
    (throw failure : Action α).through session remote = ((.error failure, session), remote) :=
  rfl

@[simp] theorem through_get (session : Session) (remote : τ) :
    (get : Action Session).through session remote = ((.ok session, session), remote) :=
  rfl

@[simp] theorem through_set (session other : Session) (remote : τ) :
    (set other : Action PUnit).through session remote = ((.ok ⟨⟩, other), remote) :=
  rfl

@[simp] theorem through_modify (change : Session → Session) (session : Session) (remote : τ) :
    (modify change : Action PUnit).through session remote = ((.ok ⟨⟩, change session), remote) :=
  rfl

@[simp] theorem through_enter (state : RunState) (session : Session) (remote : τ) :
    (enter state).through session remote = ((.ok (), { session with state }), remote) :=
  rfl

@[simp] theorem through_pause (session : Session) (remote : τ) :
    pause.through session remote = ((.ok (), session), remote) :=
  rfl

theorem through_bind (action : Action α) (rest : α → Action β) (session : Session) (remote : τ) :
    (action >>= rest).through session remote =
      match action.through session remote with
      | ((.ok value, next), after) => (rest value).through next after
      | ((.error failure, next), after) => ((.error failure, next), after) := by
  rw [through, ExceptT.run_bind, StateT.run_bind, Dialogue.through_bind]
  show _ = match Dialogue.through (action.run.run session) remote with
    | ((.ok value, next), after) => (rest value).through next after
    | ((.error failure, next), after) => ((.error failure, next), after)
  rcases Dialogue.through (action.run.run session) remote with ⟨⟨_ | value, next⟩, after⟩ <;> rfl

theorem eq_of_toOption {α τ : Type} {outcome : (Except Failure α × Session) × τ} {value : α}
    (ok : outcome.1.1.toOption = some value) :
    outcome = ((.ok value, outcome.1.2), outcome.2) := by
  rcases outcome with ⟨⟨failure | answer, last⟩, final⟩
  · simp [Except.toOption] at ok
  · cases ok
    rfl

theorem eq_error_of_toOption {α τ : Type} {outcome : (Except Failure α × Session) × τ}
    (failed : outcome.1.1.toOption.isNone = true) :
    ∃ failure, outcome = ((.error failure, outcome.1.2), outcome.2) := by
  rcases outcome with ⟨⟨failure | answer, last⟩, final⟩
  · exact ⟨failure, rfl⟩
  · simp [Except.toOption] at failed

theorem through_bind_of_ok {action : Action α} {rest : α → Action β} {value : α}
    (led : action.through session remote = ((.ok value, next), after)) :
    (action >>= rest).through session remote = (rest value).through next after := by
  rw [through_bind, led]

theorem through_bind_of_error {action : Action α} {rest : α → Action β} {failure : Failure}
    (led : action.through session remote = ((.error failure, next), after)) :
    (action >>= rest).through session remote = ((.error failure, next), after) := by
  rw [through_bind, led]

theorem bind_eq_ok {action : Action α} {rest : α → Action β} {value : β} {last : Session}
    {final : τ} :
    (action >>= rest).through session remote = ((.ok value, last), final) ↔
      ∃ middle next after, action.through session remote = ((.ok middle, next), after) ∧
        (rest middle).through next after = ((.ok value, last), final) := by
  rw [through_bind]
  constructor
  · intro led
    rcases first : action.through session remote with ⟨⟨failure | middle, next⟩, after⟩
    · rw [first] at led
      simp at led
    · rw [first] at led
      exact ⟨middle, next, after, rfl, led⟩
  · rintro ⟨middle, next, after, first, led⟩
    rw [first]
    exact led

theorem bind_eq_iff {action : Action α} {rest : α → Action β} {result : Except Failure β}
    {last : Session} {final : τ} :
    (action >>= rest).through session remote = ((result, last), final) ↔
      (∃ failure, action.through session remote = ((.error failure, last), final) ∧
        result = .error failure) ∨
      ∃ middle next after, action.through session remote = ((.ok middle, next), after) ∧
        (rest middle).through next after = ((result, last), final) := by
  rw [through_bind]
  rcases action.through session remote with ⟨⟨failure | middle, next⟩, after⟩
  · constructor
    · intro led
      cases led
      exact .inl ⟨failure, rfl, rfl⟩
    · rintro (⟨cause, same, rfl⟩ | ⟨middle, next, after, impossible, -⟩)
      · cases same
        rfl
      · simp at impossible
  · constructor
    · intro led
      exact .inr ⟨middle, next, after, rfl, led⟩
    · rintro (⟨cause, impossible, -⟩ | ⟨middle, next, after, same, led⟩)
      · simp at impossible
      · cases same
        exact led

theorem through_onLink (exchange : Link → Exchange α) (session : Session) (remote : τ) :
    (onLink exchange).through session remote =
      (((((exchange session.link).through remote).1.mapError Failure.link), session),
        ((exchange session.link).through remote).2) := by
  show Dialogue.through ((exchange session.link).run >>= _) remote = _
  rw [Dialogue.through_bind]
  show _ = ((((Dialogue.through (exchange session.link).run remote).1.mapError Failure.link),
    session), (Dialogue.through (exchange session.link).run remote).2)
  rcases Dialogue.through (exchange session.link).run remote with ⟨_ | value, after⟩ <;> rfl

theorem onLink_eq_ok {exchange : Link → Exchange α} {value : α} :
    (onLink exchange).through session remote = ((.ok value, next), after) ↔
      (exchange session.link).through remote = (.ok value, after) ∧ next = session := by
  rw [through_onLink]
  rcases (exchange session.link).through remote with ⟨cause | answer, final⟩
  · show ((Except.error (Failure.link cause), session), final) = _ ↔ _
    simp
  · show ((Except.ok answer, session), final) = _ ↔ _
    simp only [Prod.mk.injEq, Except.ok.injEq]
    constructor
    · rintro ⟨⟨rfl, rfl⟩, rfl⟩
      exact ⟨⟨rfl, rfl⟩, rfl⟩
    · rintro ⟨⟨rfl, rfl⟩, rfl⟩
      exact ⟨⟨rfl, rfl⟩, rfl⟩

theorem onLink_session {exchange : Link → Exchange α} {result : Except Failure α}
    (led : (onLink exchange).through session remote = ((result, next), after)) :
    next = session := by
  rw [through_onLink] at led
  exact ((Prod.mk.inj (Prod.mk.inj led).1).2).symm

theorem through_onLink_of_ok {exchange : Link → Exchange α} {value : α}
    (led : (exchange session.link).through remote = (.ok value, after)) :
    (onLink exchange).through session remote = ((.ok value, session), after) :=
  onLink_eq_ok.mpr ⟨led, rfl⟩

theorem through_lowerFlag (session : Session) (remote : τ) :
    lowerFlag.through session remote =
      ((.ok (), { session with cancelled := false }), (Transport.interrupted remote).2) :=
  rfl

theorem through_isCancelled (session : Session) (remote : τ) :
    isCancelled.through session remote =
      ((.ok (session.cancelled || (Transport.interrupted remote).1),
        { session with cancelled := session.cancelled || (Transport.interrupted remote).1 }),
        (Transport.interrupted remote).2) :=
  rfl

theorem through_command (body : Action α) (session : Session) (remote : τ) :
    (command body).through session remote =
      match body.through { session with cancelled := false, frame := {} }
          (Transport.interrupted remote).2 with
      | ((.ok value, next), after) => ((.ok value, next), after)
      | ((.error failure, next), after) =>
        ((.error failure, { next with state := .stopped }), after) := by
  rw [command, through_bind_of_ok (through_lowerFlag session remote),
    through_bind_of_ok (through_modify _ _ _)]
  show Dialogue.through (body.run.run { session with cancelled := false, frame := {} } >>= _)
    (Transport.interrupted remote).2 = _
  rw [Dialogue.through_bind, through]
  rcases Dialogue.through (body.run.run { session with cancelled := false, frame := {} })
    (Transport.interrupted remote).2 with ⟨⟨failure | value, next⟩, after⟩ <;> rfl

theorem command_eq_ok {body : Action α} {value : α} :
    (command body).through session remote = ((.ok value, next), after) ↔
      body.through { session with cancelled := false, frame := {} }
        (Transport.interrupted remote).2 = ((.ok value, next), after) := by
  rw [through_command]
  rcases body.through { session with cancelled := false, frame := {} }
    (Transport.interrupted remote).2 with ⟨⟨failure | answer, last⟩, final⟩ <;> simp

end RemoteDebugger.Action
