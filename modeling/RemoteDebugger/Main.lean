import RemoteDebugger.CommandLine.Execution
import RemoteDebugger.Toml.Files
import RemoteDebugger.Transport.Stream

/-!
The command line program. It reads files, opens the device and leads the dialogue over it; what to
say and what to print is decided elsewhere.
-/

set_option autoImplicit false

namespace RemoteDebugger.CommandLine

structure Device where
  input : IO.FS.Handle
  output : IO.FS.Handle

def faultOf : IO.Error → Fault
  | .noFileOrDirectory _ _ _ => .noSuchFile
  | error => ⟨toString error⟩

def fileBytes (path : Text) : IO (Except Fault (List UInt8)) := do
  try
    let bytes ← IO.FS.readBinFile (String.ofList path)
    pure (.ok bytes.toList)
  catch error => pure (.error (faultOf error))

def openDevice (path : Text) : IO (Except Fault Device) := do
  try
    let input ← IO.FS.Handle.mk (String.ofList path) .readWrite
    let output ← IO.FS.Handle.mk (String.ofList path) .readWrite
    pure (.ok ⟨input, output⟩)
  catch error => pure (.error (faultOf error))

namespace Device

def send (device : Device) (line : Text) : IO (Except Fault Unit) := do
  try
    device.output.putStr (String.ofList (line ++ ['\n']))
    device.output.flush
    pure (.ok ())
  catch error => pure (.error (faultOf error))

/-- Takes the next line. A device that gives nothing has no line for now. -/
def receive (device : Device) : IO (Except Fault (Option Text)) := do
  try
    let line ← device.input.getLine
    if line.isEmpty then pure (.ok none)
    else pure (.ok (some (Stream.trimLineEnd line.toList)))
  catch error => pure (.error (faultOf error))

def lead {α : Type} (device : Device) : Dialogue α → IO α
  | .done value => pure value
  | .send line next => do
    let answer ← device.send line
    device.lead (next answer)
  | .receive next => do
    let answer ← device.receive
    device.lead (next answer)
  | .pause milliseconds next => do
    IO.sleep (UInt32.ofNat milliseconds)
    device.lead next
  | .interrupted next => device.lead (next false)

end Device

/-- The path of the default settings, if the user has a place for settings. -/
def homeConfig : IO (Option Text) := do
  let chosen := (← IO.getEnv "XDG_CONFIG_HOME").filter (·.startsWith "/")
  let usual := (← IO.getEnv "HOME").map (· ++ "/.config")
  let place := chosen <|> usual
  pure (place.map fun place => (place ++ "/dbg4510/config.toml").toList)

/-- How many rounds a waiting loop gets. No device lives long enough to use them up. -/
def roundLimit : Nat := 0x10000000000000000

def carryOut (invocation : Invocation) : ExceptT CommandError IO (List Text) := do
  let setup ← Setup.read Toml.documents (fun path => fileBytes path) (← homeConfig) invocation
  match ← openDevice setup.config.device with
  | .error fault => throw (.device setup.config.device fault)
  | .ok device => ExceptT.mk (device.lead (invocation.dialogue roundLimit setup).run)

def complain (error : CommandError) : IO Unit := do
  IO.eprintln ("Error: " ++ String.ofList error.message)
  if let some reason := error.reason? then
    IO.eprintln ("\nCaused by:\n    " ++ String.ofList reason)

end RemoteDebugger.CommandLine

open RemoteDebugger.CommandLine in
/-- Exit code 0 is success, 1 a failure and 2 a command line that cannot be read. -/
def main (words : List String) : IO UInt32 := do
  match Invocation.ofWords? (words.map String.toList) with
  | none =>
    IO.eprintln "usage: [--device D] [--config F] [--symbols F] [--frame N] COMMAND [ARGUMENT ...]"
    pure 2
  | some invocation =>
    match ← (carryOut invocation).run with
    | .ok lines =>
      for line in lines do
        IO.println (String.ofList line)
      pure 0
    | .error error =>
      complain error
      pure 1
