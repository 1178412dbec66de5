import RemoteDebugger.Session.Stack

/-!
Locals with checked sums. Where the sum of two signed words of thirty-two bits is no such word, a
checked build stops instead of keeping the low bits. What is read up to there is read all the same.
The size of a local is cut to thirty-two bits without a check.
-/

set_option autoImplicit false

namespace RemoteDebugger

/-- The sum of two words, if a word can hold it. -/
def addChecked? (first second : Int32) : Option Int32 :=
  if (first + second).toInt = first.toInt + second.toInt then some (first + second) else none

/-- Adds words in turn, each sum checked. -/
def sumChecked? (start : Int32) (terms : List Int32) : Option Int32 :=
  terms.foldlM addChecked? start

namespace Action

/-- What the offsets of a frame's locals count from, added up as `localBase` has it: first the
parameters of the callers, the selected frame first, and then the locals with negative offsets. -/
def localBaseChecked? (function : Function) (pointer : UInt16) (callers : List (Option Function)) :
    Option Int32 := do
  let passed ← sumChecked? (Int32.ofNat pointer.toNat) (callers.reverse.map parameterBytes)
  let below ← sumChecked? 0
    ((function.locals.filter fun entry => entry.offset < 0).map fun entry => Int32.ofNat entry.size)
  addChecked? passed below

/-- Reads locals in turn, up to the first whose place overflows. -/
def readLocalsChecked (base : Int32) : List LocalVariable → Action (Option (List LocalValue))
  | [] => pure (some [])
  | entry :: others =>
    match addChecked? base entry.offset with
    | none => pure none
    | some place => do
      let address := place.toInt16.toUInt16
      let data ← readLocal (.cpu address) entry.size
      let rest ← readLocalsChecked base others
      pure (rest.map fun values => ⟨entry.name, address, data⟩ :: values)

/-- Reads locals where their base did not overflow. -/
def readLocalsFrom (entries : List LocalVariable) :
    Option Int32 → Action (Option (List LocalValue))
  | none => pure none
  | some base => readLocalsChecked base entries

/-- The locals of the selected frame, if no sum overflows. -/
def localsCheckedBy (functionAt : UInt16 → Option Function) :
    Action (Option (List LocalValue)) := do
  let session ← get
  let cursor := session.frame.index
  let addresses ← frameAddresses
  match functionAt (addresses.getD cursor 0) with
  | none => pure (some [])
  | some function => do
    let pointer ← onLink (·.peekWord (.cpu session.config.softStackPointer))
    let callers := (addresses.tail.take cursor).map functionAt
    readLocalsFrom function.locals (localBaseChecked? function pointer callers)

/-- The locals of the selected frame, with the functions of the symbols, if no sum overflows. -/
def localsChecked (symbols : Symbols) : Action (Option (List LocalValue)) :=
  localsCheckedBy symbols.functionContaining

end Action

end RemoteDebugger
