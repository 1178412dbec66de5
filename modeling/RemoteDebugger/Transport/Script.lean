import RemoteDebugger.Transport.Basic

/-!
A transport with replies laid down beforehand: whatever is sent, they arrive one by one, and after
the last one there is silence.
-/

set_option autoImplicit false

namespace RemoteDebugger

inductive Reply where
  | line (text : Text)
  | silence
  | fault (fault : Fault)
  deriving DecidableEq, Repr

/-- The replies to come, and the line at which sending fails, if any. -/
structure Script where
  replies : List Reply
  failure : Option (Text × Fault) := none
  deriving DecidableEq, Repr

namespace Script

def send (script : Script) (line : Text) : Except Fault Unit :=
  match script.failure with
  | some (failing, fault) => if line = failing then .error fault else .ok ()
  | none => .ok ()

def receive (script : Script) : Except Fault (Option Text) × Script :=
  match script.replies with
  | [] => (.ok none, script)
  | .line text :: others => (.ok (some text), { script with replies := others })
  | .silence :: others => (.ok none, { script with replies := others })
  | .fault fault :: others => (.error fault, { script with replies := others })

instance : Transport Script where
  send script line := (script.send line, script)
  receive := receive
  interrupted script := (false, script)

/-- More rounds than any waiting loop goes over a script: each round uses up a reply. -/
def rounds (script : Script) : Nat := script.replies.length + 2

end Script

end RemoteDebugger
