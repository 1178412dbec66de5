import RemoteDebugger.CommandLine.Arguments
import RemoteDebugger.CommandLine.Number

/-!
Requests: what a command line asks for. The command word comes after the general options, and its
own arguments after it. Addresses are kept as they are written, because a bad one is told only after
the device is open.
-/

set_option autoImplicit false

namespace RemoteDebugger.CommandLine

inductive Request where
  | showRegisters
  | list (address : Option Text) (count : Nat)
  | dump (address : Text) (length : Nat)
  | assemble (address : Text) (line : List Text)
  | execute (line : List Text)
  | resume (address : Option Text) (software : Bool)
  | step (count : Nat)
  | stepOver (count : Nat) (hardware : Bool)
  | finish
  | showFrames
  | showLocals
  | setBreakpoint (address : Text)
  | setPc (address : Text)
  | search (address length : Text) (bytes : List Text)
  | copy (source destination count : Text)
  deriving DecidableEq, Repr

namespace Request

def numberOr (read? : Text → Option Nat) (default : Nat) : Option Text → Option Nat
  | none => some default
  | some text => read? text

def grammar (command : String) : Grammar :=
  match command with
  | "dis" => { options := ["count".toList] }
  | "cont" => { flags := ["soft".toList] }
  | "next" => { flags := ["hardware".toList] }
  | _ => {}

/-- The request that a command makes with its arguments. -/
def ofArguments? (command : String) (arguments : Arguments) : Option Request :=
  match command, arguments.operands with
  | "regs", [] => some showRegisters
  | "dis", [] => list none <$> numberOr readSize? 16 (arguments.value? "count")
  | "dis", [address] => list (some address) <$> numberOr readSize? 16 (arguments.value? "count")
  | "mem", [address] => some (dump address 64)
  | "mem", [address, length] => dump address <$> readSize? length
  | "asm", address :: line => some (assemble address line)
  | "exec", line => some (execute line)
  | "cont", [] => if arguments.has "soft" then none else some (resume none false)
  | "cont", [address] => some (resume (some address) (arguments.has "soft"))
  | "step", [] => some (step 1)
  | "step", [count] => step <$> readTimes? count
  | "next", [] => some (stepOver 1 (arguments.has "hardware"))
  | "next", [count] => (stepOver · (arguments.has "hardware")) <$> readTimes? count
  | "finish", [] => some finish
  | "back", [] => some showFrames
  | "locals", [] => some showLocals
  | "break", [address] => some (setBreakpoint address)
  | "go", [address] => some (setPc address)
  | "search", address :: length :: bytes => some (search address length bytes)
  | "copy", [source, destination, count] => some (copy source destination count)
  | _, _ => none

end Request

/-- A whole command line: where to work, on which frame, and what to do. -/
structure Invocation where
  device : Option Text := none
  config : Option Text := none
  symbols : Option Text := none
  frame : Nat := 0
  request : Request
  deriving DecidableEq, Repr

namespace Invocation

def grammar : Grammar :=
  { options := ["device".toList, "config".toList, "symbols".toList, "frame".toList] }

def path? : Option Text → Option (Option Text)
  | some [] => none
  | path => some path

/-- Reads a command line. There is nothing to tell about one that cannot be read but how to write
one. -/
def ofWords? (words : List Text) : Option Invocation := do
  match ← Arguments.readLeading grammar words {} with
  | (_, []) => none
  | (general, command :: others) =>
    let name := String.ofList command
    let arguments ← Arguments.read (Request.grammar name) others
    pure {
      device := general.value? "device"
      config := ← path? (general.value? "config")
      symbols := ← path? (general.value? "symbols")
      frame := ← Request.numberOr readSize? 0 (general.value? "frame")
      request := ← Request.ofArguments? name arguments }

end Invocation

end RemoteDebugger.CommandLine
