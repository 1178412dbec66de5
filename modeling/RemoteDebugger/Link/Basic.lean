import RemoteDebugger.Memory.Address
import RemoteDebugger.Monitor.Command
import RemoteDebugger.Monitor.ValueLine
import RemoteDebugger.Text.Quoted
import RemoteDebugger.Transport.Basic

/-!
The link: one command out, reply lines in. A reply is awaited for a bounded number of reads, and
lines that are not of the awaited kind are skipped. A device failure ends the exchange at once.
-/

set_option autoImplicit false

namespace RemoteDebugger

inductive LinkError where
  | io (fault : Fault)
  | timeout (command : Text) (attempts : Nat)
  | malformed (index : Nat) (line : Text)
  deriving DecidableEq, Repr

def LinkError.message : LinkError → Text
  | .io fault => "link I/O error: " ++ fault.text.toList
  | .timeout command attempts =>
    "no reply to '" ++ command ++ "' after " ++ Text.decimal attempts ++ " attempts"
  | .malformed index line =>
    "malformed reply: line " ++ Text.decimal index ++ " of bulk read: " ++ Text.quoted line

abbrev Exchange := ExceptT LinkError Dialogue

namespace Exchange

def send (line : Text) : Exchange Unit :=
  ExceptT.mk <| .send line fun
    | .ok () => .done (.ok ())
    | .error fault => .done (.error (.io fault))

def receive : Exchange (Option Text) :=
  ExceptT.mk <| .receive fun
    | .ok line => .done (.ok line)
    | .error fault => .done (.error (.io fault))

def through {α τ : Type} [Transport τ] (exchange : Exchange α) (remote : τ) :
    Except LinkError α × τ :=
  Dialogue.through exchange.run remote

end Exchange

/-- A link reads at most so often for one reply, and at least once. -/
structure Link where
  retryLimit : Nat
  deriving DecidableEq, Repr

namespace Link

variable {α : Type}

def reads (link : Link) : Nat := max link.retryLimit 1

/-- Reads up to so many lines for one that can be read as a value. -/
def awaitWithin (link : Link) (command : Text) (read? : Text → Option α) : Nat → Exchange α
  | 0 => throw (.timeout command link.reads)
  | left + 1 => do
    match ← Exchange.receive with
    | none => awaitWithin link command read? left
    | some line =>
      match read? line with
      | some value => pure value
      | none => awaitWithin link command read? left

def await (link : Link) (command : Command) (read? : Text → Option α) : Exchange α :=
  awaitWithin link command.line read? link.reads

def ask (link : Link) (command : Command) (read? : Text → Option α) : Exchange α := do
  Exchange.send command.line
  link.await command read?

def tell (link : Link) (command : Command) : Exchange Unit :=
  link.ask command fun _ => some ()

def readRegisters (link : Link) : Exchange Registers :=
  link.ask .readRegisters Registers.ofLine?

def readWindow (link : Link) (address : Address) : Exchange Window :=
  link.ask (.readWindow address.physical) Window.ofLine?

/-- The further lines of a bulk read, which may not be damaged. -/
def bulkLines (link : Link) (command : Command) : List Nat → Exchange (List Window)
  | [] => pure []
  | index :: others => do
    let line ← link.await command some
    match Window.ofLine? line with
    | none => throw (.malformed index line)
    | some window => do
      let windows ← bulkLines link command others
      pure (window :: windows)

/-- The sixteen windows at an address, by one command. -/
def readBulk (link : Link) (address : Address) : Exchange (List Window) := do
  let command := Command.readBulk address.physical
  let first ← link.ask command Window.ofLine?
  let others ← link.bulkLines command (List.range' 1 15)
  pure (first :: others)

def setPc (link : Link) (address : UInt16) : Exchange Unit := link.tell (.setPc address)

def setBreakpoint (link : Link) (address : UInt16) : Exchange Unit :=
  link.tell (.setBreakpoint address)

def setRunning (link : Link) (running : Bool) : Exchange Unit := link.tell (.setRunning running)

def singleStep (link : Link) : Exchange Unit := link.tell .singleStep

/-- Executes one instruction, or a whole subroutine, by the monitor's own means. -/
def stepOver (link : Link) : Exchange Unit := link.tell .stepOver

end Link

end RemoteDebugger
