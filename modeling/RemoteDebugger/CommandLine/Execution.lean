import RemoteDebugger.CommandLine.Report
import RemoteDebugger.CommandLine.Request
import RemoteDebugger.Config.File
import RemoteDebugger.Session.Stepping

/-!
Carrying out a command line: settings and symbols are read first, then the device is opened, then
the request becomes an action of a session. The first step that fails decides what the operator is
told.
-/

set_option autoImplicit false

namespace RemoteDebugger.CommandLine

inductive CommandError where
  | config (path : Text) (cause : FileError)
  | symbols (path : Text) (cause : FileError)
  | device (path : Text) (cause : Fault)
  | number (cause : NumberError)
  | symbolsMissing
  | session (cause : Failure)
  deriving DecidableEq, Repr

namespace CommandError

def message : CommandError → Text
  | config path _ => "failed to load config " ++ path
  | symbols path _ => "failed to load symbols " ++ path
  | device path _ => "failed to open " ++ path
  | number cause => cause.message
  | symbolsMissing => "locals need --symbols"
  | session (.link cause) => cause.message
  | session (.encode cause) => cause.message
  | session .unfinished => "the target never stops"

/-- What lies behind the error, if there is more to tell. -/
def reason? : CommandError → Option Text
  | config path cause | symbols path cause => some (cause.message path)
  | device _ cause => some cause.text
  | number cause => some cause.cause.message
  | symbolsMissing | session _ => none

end CommandError

structure Setup where
  config : Config
  symbols : Option Symbols

namespace Setup

/-- Files are read by whoever can: a file is a fault or bytes. -/
abbrev Files (m : Type → Type) := Text → m (Except Fault (List UInt8))

variable {m : Type → Type} [Monad m] (documents : Documents)

def configOf (path : Text) (content : Except Fault (List UInt8)) : ExceptT CommandError m Config :=
  ExceptT.mk (pure ((interpretFile documents.config? content).mapError (.config path)))

/-- The settings of a given file, or else of the default one, which does not have to exist. -/
def configFor (files : Files m) (home : Option Text) (invocation : Invocation) :
    ExceptT CommandError m Config := do
  match invocation.config with
  | some path => configOf documents path (← files path)
  | none =>
    match home with
    | none => pure {}
    | some path =>
      match ← files path with
      | .error fault => if fault = .noSuchFile then pure {} else configOf documents path (.error fault)
      | .ok bytes => configOf documents path (.ok bytes)

def symbolsFor (files : Files m) (invocation : Invocation) :
    ExceptT CommandError m (Option Symbols) := do
  match invocation.symbols with
  | none => pure none
  | some path =>
    let content ← files path
    let known := interpretFile (Symbols.ofText? documents.symbols?) content
    ExceptT.mk (pure ((known.mapError (.symbols path)).map some))

/-- Reads what an invocation needs. A device of its own replaces the one of the settings. -/
def read (files : Files m) (home : Option Text) (invocation : Invocation) :
    ExceptT CommandError m Setup := do
  let settings ← configFor documents files home invocation
  let known ← symbolsFor documents files invocation
  pure ⟨{ settings with device := invocation.device.getD settings.device }, known⟩

end Setup

namespace Request

def optionalAddress? : Option Text → Except NumberError (Option Address)
  | none => .ok none
  | some text => (readAddress text).map some

def stopped (action : Action StopReason) : Action (List Text) :=
  (fun reason => [reason.text]) <$> action

def silent (action : Action Unit) : Action (List Text) := (fun _ => []) <$> action

/-- The action of a request, which yields the lines to print. All its numbers are read before
anything is sent. -/
def action (rounds : Nat) (symbols : Option Symbols) :
    Request → Except CommandError (Action (List Text))
  | showRegisters => pure (Report.registers <$> Action.onLink (·.readRegisters))
  | list address count => do
    let address ← (optionalAddress? address).mapError .number
    pure (Action.disassembleAt address count)
  | dump address length => do
    let address ← (readAddress address).mapError .number
    pure (Report.dump address <$> Action.onLink (·.readRange address length))
  | assemble address line => do
    let address ← (readAddress address).mapError .number
    pure (Report.assembled address <$> Action.assembleAt address (Text.joined " " line))
  | execute line => pure (Report.executed <$> Action.executeOneShot (Text.joined " " line))
  | resume address software => do
    let target ← (address.mapM readHex).mapError .number
    pure (stopped (Action.continueExecution rounds target software))
  | step count => pure (stopped (Action.step count))
  | stepOver count hardware => pure (stopped (Action.stepOver rounds count hardware symbols))
  | finish => pure (stopped (Action.finish rounds))
  | showFrames => pure (List.map Report.frame <$> Action.backtrace)
  | showLocals =>
    match symbols with
    | none => throw .symbolsMissing
    | some symbols => pure (Report.locals <$> Action.locals symbols)
  | setBreakpoint address => do
    let address ← (readCpuAddress address).mapError .number
    pure (silent (Action.setHardwareBreakpoint address))
  | setPc address => do
    let address ← (readCpuAddress address).mapError .number
    pure (silent (Action.setPc address))
  | search address length bytes => do
    let address ← (readAddress address).mapError .number
    let length ← (readHex length).mapError .number
    let pattern ← (bytes.mapM readByte).mapError .number
    pure (List.map Address.text <$> Action.onLink (·.search address length.toNat pattern))
  | copy source destination count => do
    let source ← (readAddress source).mapError .number
    let destination ← (readAddress destination).mapError .number
    let count ← (readHex count).mapError .number
    pure (silent (Action.onLink (·.copy source destination count.toNat)))

end Request

/-- The session of an invocation, with its frame selected. -/
def Invocation.session (invocation : Invocation) (setup : Setup) : Session :=
  { config := setup.config, frame := FrameCursor.descended invocation.frame }

/-- The dialogue of an invocation, which yields the lines to print or an error. -/
def Invocation.dialogue (invocation : Invocation) (rounds : Nat) (setup : Setup) :
    ExceptT CommandError Dialogue (List Text) :=
  match invocation.request.action rounds setup.symbols with
  | .error error => throw error
  | .ok action => ExceptT.mk do
    let (result, _) ← action.run.run (invocation.session setup)
    pure (result.mapError .session)

end RemoteDebugger.CommandLine
