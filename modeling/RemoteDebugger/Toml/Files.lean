import RemoteDebugger.Config.File
import RemoteDebugger.Toml.Document
import RemoteDebugger.Toml.Record

/-!
Settings and symbols as documents: the reader that the executable is linked with. Every setting has
a default, so an empty file is a configuration, and keys that are no setting do not matter. No
statement about the program depends on this reader; where one is about files, it is about all
readers.
-/

set_option autoImplicit false

namespace RemoteDebugger.Toml

def configOf? (entries : Entries) : Option Config := do
  let field {α : Type} (name : Text) (read? : Value → Option α) (default : α) : Option α :=
    optional? read? default (entries.lookup name)
  let defaults : Config := {}
  let count (name : Text) (default : Nat) : Option Nat :=
    field name (Value.natural? 0xFFFFFFFF) default
  pure {
    device := ← field "device" Value.text? defaults.device
    pollInterval := ← field "poll_interval_ms" (Value.natural? 0xFFFFFFFFFFFFFFFF)
      defaults.pollInterval
    stallThreshold := ← count "stall_threshold" defaults.stallThreshold
    linkRetryLimit := ← count "link_retry_limit" defaults.linkRetryLimit
    stoppedCheckPolls := ← count "stopped_check_polls" defaults.stoppedCheckPolls
    scratchAddress := ← field "scratch_address" Value.word? defaults.scratchAddress
    softStackPointer := ← field "soft_stack_pointer" Value.word? defaults.softStackPointer }

def localOf? (value : Value) : Option LocalVariable := do
  match ← value.fields? ["name", "offset", "size"] with
  | [name, offset, size] =>
    pure {
      name := ← required? Value.text? name
      offset := Int32.ofInt (← required? (Value.integerWithin? (-0x80000000) 0x7FFFFFFF) offset)
      size := ← required? (Value.natural? 0xFFFFFFFFFFFFFFFF) size }
  | _ => none

/-- A function as a record. Parameters and locals may be left out. -/
def functionOf? (value : Value) : Option Function := do
  match ← value.fields? ["name", "address", "param_size", "locals"] with
  | [name, address, paramSize, locals] =>
    pure {
      name := ← required? Value.text? name
      address := ← required? Value.word? address
      paramSize := ← optional? Value.word? 0 paramSize
      locals := ← optional? (Value.list? localOf?) [] locals }
  | _ => none

def lineRangeOf? (value : Value) : Option LineRange := do
  match ← value.fields? ["start", "end"] with
  | [first, last] =>
    pure { first := ← required? Value.word? first, last := ← required? Value.word? last }
  | _ => none

def symbolsOf? (entries : Entries) : Option Symbols := do
  let functions ← optional? (Value.list? functionOf?) [] (entries.lookup "functions".toList)
  let lines ← optional? (Value.list? lineRangeOf?) [] (entries.lookup "lines".toList)
  pure { functions, lines }

def documents : Documents where
  config? text := entriesOf? text >>= configOf?
  symbols? text := entriesOf? text >>= symbolsOf?

end RemoteDebugger.Toml
