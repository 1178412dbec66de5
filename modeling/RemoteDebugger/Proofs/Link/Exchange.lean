import RemoteDebugger.Link.Basic

/-!
Exchanges led through a transport. A sequence of exchanges is led one after another, and the first
failure ends it. Awaiting a reply takes one line at a time off the transport.
-/

set_option autoImplicit false

namespace RemoteDebugger

variable {α β τ : Type} [Transport τ]

namespace Exchange

@[simp] theorem through_pure (value : α) (remote : τ) :
    (pure value : Exchange α).through remote = (.ok value, remote) :=
  rfl

@[simp] theorem through_throw (cause : LinkError) (remote : τ) :
    (throw cause : Exchange α).through remote = (.error cause, remote) :=
  rfl

theorem through_bind (exchange : Exchange α) (rest : α → Exchange β) (remote : τ) :
    (exchange >>= rest).through remote =
      match exchange.through remote with
      | (.ok value, after) => (rest value).through after
      | (.error cause, after) => (.error cause, after) := by
  rw [through, ExceptT.run_bind, Dialogue.through_bind]
  show _ = match Dialogue.through exchange.run remote with
    | (.ok value, after) => (rest value).through after
    | (.error cause, after) => (.error cause, after)
  rcases Dialogue.through exchange.run remote with ⟨_ | value, after⟩ <;> rfl

theorem through_bind_of_ok {exchange : Exchange α} {rest : α → Exchange β} {remote after : τ}
    {value : α} (led : exchange.through remote = (.ok value, after)) :
    (exchange >>= rest).through remote = (rest value).through after := by
  rw [through_bind, led]

theorem through_send (line : Text) (remote : τ) :
    (send line).through remote =
      ((Transport.send remote line).1.mapError LinkError.io, (Transport.send remote line).2) := by
  show Dialogue.through (.send line _) remote = _
  rw [Dialogue.through]
  rcases Transport.send remote line with ⟨_ | _, after⟩ <;> rfl

theorem through_receive (remote : τ) :
    receive.through remote =
      ((Transport.receive remote).1.mapError LinkError.io, (Transport.receive remote).2) := by
  show Dialogue.through (.receive _) remote = _
  rw [Dialogue.through]
  rcases Transport.receive remote with ⟨_ | _, after⟩ <;> rfl

theorem through_receive_bind (rest : Option Text → Exchange α) (remote : τ) :
    (receive >>= rest).through remote =
      match Transport.receive remote with
      | (.ok line, after) => (rest line).through after
      | (.error fault, after) => (.error (.io fault), after) := by
  rw [through_bind, through_receive]
  rcases Transport.receive remote with ⟨_ | _, after⟩ <;> rfl

theorem through_receive_of_ok {remote after : τ} {line : Option Text}
    (received : Transport.receive remote = (.ok line, after)) :
    receive.through remote = (.ok line, after) := by
  rw [through_receive, received]
  rfl

end Exchange

namespace Link

variable {link : Link} {command : Text} {read? : Text → Option α} {remote after : τ}

theorem through_awaitWithin_of_none {left : Nat}
    (silent : Transport.receive remote = (.ok none, after)) :
    (link.awaitWithin command read? (left + 1)).through remote =
      (link.awaitWithin command read? left).through after := by
  rw [awaitWithin, Exchange.through_bind_of_ok (Exchange.through_receive_of_ok silent)]

theorem through_awaitWithin_of_skipped {left : Nat} {line : Text}
    (received : Transport.receive remote = (.ok (some line), after))
    (skipped : read? line = none) :
    (link.awaitWithin command read? (left + 1)).through remote =
      (link.awaitWithin command read? left).through after := by
  rw [awaitWithin, Exchange.through_bind_of_ok (Exchange.through_receive_of_ok received)]
  simp only [skipped]

theorem through_awaitWithin_of_read {left : Nat} {line : Text} {value : α}
    (received : Transport.receive remote = (.ok (some line), after))
    (read : read? line = some value) :
    (link.awaitWithin command read? (left + 1)).through remote = (.ok value, after) := by
  rw [awaitWithin, Exchange.through_bind_of_ok (Exchange.through_receive_of_ok received)]
  simp only [read]
  rfl

theorem through_awaitWithin_of_error {left : Nat} {fault : Fault}
    (failed : Transport.receive remote = (.error fault, after)) :
    (link.awaitWithin command read? (left + 1)).through remote = (.error (.io fault), after) := by
  rw [awaitWithin, Exchange.through_receive_bind, failed]

theorem reads_pos (link : Link) : 1 ≤ link.reads := Nat.le_max_right _ _

/-- A link reads at least once, so it never misses a value in the next line. -/
theorem through_await_of_read {command : Command} {line : Text} {value : α}
    (received : Transport.receive remote = (.ok (some line), after))
    (read : read? line = some value) :
    (link.await command read?).through remote = (.ok value, after) := by
  obtain ⟨left, reads⟩ := Nat.exists_eq_add_of_lt link.reads_pos
  rw [await, show link.reads = left + 1 by omega]
  exact through_awaitWithin_of_read received read

end Link

end RemoteDebugger
