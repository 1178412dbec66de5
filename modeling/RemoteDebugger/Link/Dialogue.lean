import RemoteDebugger.Text.Basic

/-!
A dialogue is everything the debugger may do to the outside while it works on one command: send a
line, wait for a line, pause, and ask whether the operator wants to stop. It is a finite tree with
one branch for every answer, so a statement about all its paths is a statement about every
behaviour of the other side. Whoever answers picks one path.
-/

set_option autoImplicit false

namespace RemoteDebugger

/-- A failure of the device below the link, told in its own words. -/
structure Fault where
  text : String
  deriving DecidableEq, Repr

def Fault.notText : Fault := ⟨"stream did not contain valid UTF-8"⟩

inductive Dialogue (α : Type) where
  /-- Nothing remains. -/
  | done (value : α)
  /-- Send a line, without its end, and learn whether the device took it. -/
  | send (line : Text) (next : Except Fault Unit → Dialogue α)
  /-- Take the next line, if one arrives before the device gives up waiting. -/
  | receive (next : Except Fault (Option Text) → Dialogue α)
  /-- Let some milliseconds pass. -/
  | pause (milliseconds : Nat) (next : Dialogue α)
  /-- Learn whether the operator has asked to stop since the last time this was asked. -/
  | interrupted (next : Bool → Dialogue α)

namespace Dialogue

variable {α β : Type}

/-- Continues a dialogue with what its value leads to. -/
def bind : Dialogue α → (α → Dialogue β) → Dialogue β
  | done value, rest => rest value
  | send line next, rest => send line fun answer => (next answer).bind rest
  | receive next, rest => receive fun answer => (next answer).bind rest
  | pause milliseconds next, rest => pause milliseconds (next.bind rest)
  | interrupted next, rest => interrupted fun answer => (next answer).bind rest

instance : Monad Dialogue where
  pure := done
  bind := bind

theorem bind_done (dialogue : Dialogue α) : dialogue.bind done = dialogue := by
  induction dialogue with
  | done value => rfl
  | send line next ih => simp [bind, ih]
  | receive next ih => simp [bind, ih]
  | pause milliseconds next ih => simp [bind, ih]
  | interrupted next ih => simp [bind, ih]

theorem bind_assoc {γ : Type} (dialogue : Dialogue α) (first : α → Dialogue β)
    (second : β → Dialogue γ) :
    (dialogue.bind first).bind second = dialogue.bind fun value => (first value).bind second := by
  induction dialogue with
  | done value => rfl
  | send line next ih => simp [bind, ih]
  | receive next ih => simp [bind, ih]
  | pause milliseconds next ih => simp [bind, ih]
  | interrupted next ih => simp [bind, ih]

instance : LawfulMonad Dialogue :=
  LawfulMonad.mk' Dialogue
    (fun dialogue => bind_done dialogue)
    (fun _ _ => rfl)
    (fun dialogue first second => bind_assoc dialogue first second)

end Dialogue

end RemoteDebugger
