import RemoteDebugger.Text.Basic

/-!
What the debugger knows about the source of a program: functions with their locals, and the
address ranges of source lines.
-/

set_option autoImplicit false

namespace RemoteDebugger

/-- A local variable: its place relative to the frame, and its size in bytes. -/
structure LocalVariable where
  name : Text
  offset : Int32
  size : Nat
  deriving DecidableEq

/-- A function: where it starts, how many bytes of parameters it takes, and its locals. -/
structure Function where
  name : Text
  address : UInt16
  paramSize : UInt16 := 0
  locals : List LocalVariable := []
  deriving DecidableEq

/-- The addresses of one source line, both ends included. -/
structure LineRange where
  first : UInt16
  last : UInt16
  deriving DecidableEq, Repr

def LineRange.contains (range : LineRange) (pc : UInt16) : Bool :=
  range.first ≤ pc && pc ≤ range.last

/-- The functions, by ascending address, and the lines in the order of the file. -/
structure Symbols where
  functions : List Function := []
  lines : List LineRange := []
  deriving DecidableEq

/-- Where a range changes from places that pass a test to places that fail it: the last place that
passes, or the first place if none does. The range is halved until one place is left. -/
def bisect (passes : Nat → Bool) : Nat → Nat → Nat → Nat
  | 0, first, _ => first
  | rounds + 1, first, size =>
    if size ≤ 1 then first
    else bisect passes rounds (if passes (first + size / 2) then first + size / 2 else first)
      (size - size / 2)

/-- How many entries pass a test, if those that do come before those that do not. -/
def partitionPoint {α : Type} (test : α → Bool) (items : List α) : Nat :=
  let passes := fun place => items[place]?.any test
  let last := bisect passes items.length 0 items.length
  if passes last then last + 1 else last

namespace Symbols

/-- Puts functions in order of address; those at one address keep their order. -/
def ofDeclarations (functions : List Function) (lines : List LineRange) : Symbols where
  functions := functions.mergeSort fun first second => first.address ≤ second.address
  lines

/-- The symbols of a text, from what a reader of documents finds declared in it. -/
def ofText? (declared? : Text → Option Symbols) (text : Text) : Option Symbols :=
  (declared? text).map fun declared => ofDeclarations declared.functions declared.lines

/-- The last function that starts at or before an address. -/
def functionContaining (symbols : Symbols) (pc : UInt16) : Option Function :=
  match partitionPoint (fun function => decide (function.address ≤ pc)) symbols.functions with
  | 0 => none
  | index + 1 => symbols.functions[index]?

def lineRange (symbols : Symbols) (pc : UInt16) : Option LineRange :=
  symbols.lines.find? fun range => range.contains pc

end Symbols

end RemoteDebugger
