import RemoteDebugger.Link.Dialogue

/-!
Transports. A transport is a value that stands for the other side of a dialogue: it takes lines,
gives lines, and may raise the operator's wish to stop. Leading a dialogue over one picks a path.
-/

set_option autoImplicit false

namespace RemoteDebugger

class Transport (τ : Type) where
  /-- Takes a line. -/
  send : τ → Text → Except Fault Unit × τ
  /-- Gives the next line, or none for now. -/
  receive : τ → Except Fault (Option Text) × τ
  /-- Whether the operator asked to stop; asking forgets it. -/
  interrupted : τ → Bool × τ

namespace Dialogue

variable {α β τ : Type} [Transport τ]

/-- Leads a dialogue through a transport. Time does not matter to a transport that is a value. -/
def through : Dialogue α → τ → α × τ
  | done value, remote => (value, remote)
  | send line next, remote =>
    let (answer, remote) := Transport.send remote line
    (next answer).through remote
  | receive next, remote =>
    let (answer, remote) := Transport.receive remote
    (next answer).through remote
  | pause _ next, remote => next.through remote
  | interrupted next, remote =>
    let (answer, remote) := Transport.interrupted remote
    (next answer).through remote

theorem through_bind (dialogue : Dialogue α) (rest : α → Dialogue β) (remote : τ) :
    (dialogue >>= rest).through remote =
      (rest (dialogue.through remote).1).through (dialogue.through remote).2 := by
  show (dialogue.bind rest).through remote = _
  induction dialogue generalizing remote with
  | done value => rfl
  | send line next ih => exact ih _ _
  | receive next ih => exact ih _ _
  | pause milliseconds next ih => exact ih _
  | interrupted next ih => exact ih _ _

end Dialogue

/-- A transport that keeps the lines sent over it, the latest first. -/
structure Logged (τ : Type) where
  remote : τ
  sent : List Text := []

instance {τ : Type} [Transport τ] : Transport (Logged τ) where
  send logged line :=
    let (answer, remote) := Transport.send logged.remote line
    (answer, { remote, sent := line :: logged.sent })
  receive logged :=
    let (answer, remote) := Transport.receive logged.remote
    (answer, { logged with remote })
  interrupted logged :=
    let (answer, remote) := Transport.interrupted logged.remote
    (answer, { logged with remote })

end RemoteDebugger
