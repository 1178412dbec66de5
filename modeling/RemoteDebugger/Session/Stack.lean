import RemoteDebugger.Session.Basic
import RemoteDebugger.Symbols.Basic

/-!
The call stack and the locals of its frames. The words above the stack pointer are taken for return
addresses, each two bytes past the call that pushed it. Locals lie on a software stack, whose
pointer is a word in the zero page: above it come the parameters of the functions of all frames
from the first caller to the selected one, and then the locals with negative offsets.
-/

set_option autoImplicit false

namespace RemoteDebugger

inductive LocalData where
  | byte (value : UInt8)
  | word (value : UInt16)
  | dword (value : UInt32)
  | raw (bytes : List UInt8)
  deriving DecidableEq, Repr

structure LocalValue where
  name : Text
  address : UInt16
  data : LocalData
  deriving DecidableEq, Repr

namespace LocalValue

def rows : UInt16 → List (List UInt8) → Text
  | _, [] => []
  | address, row :: others =>
    "\n  $" ++ Text.hexWord address ++ ":" ++ row.flatMap (fun byte => ' ' :: Text.hexByte byte) ++
      rows (address + 16) others

def text (value : LocalValue) : Text :=
  "@ $" ++ Text.hexWord value.address ++ " : " ++ value.name ++
    match value.data with
    | .byte byte => ": " ++ Text.hexByte byte
    | .word word => ": " ++ Text.hexWord word
    | .dword dword => ": " ++ Text.hex 8 dword.toNat
    | .raw bytes =>
      "[" ++ Text.decimal bytes.length ++ "] =" ++ rows value.address (pieces 16 bytes)

end LocalValue

namespace Action

/-- How far a return address lies past the call that pushed it. -/
def returnBias : UInt16 := 2

def callAddresses : List UInt8 → List UInt16
  | low :: high :: others => (wordOf low high - returnBias) :: callAddresses others
  | _ => []

def frameAddresses : Action (List UInt16) := do
  let registers ← onLink (·.readRegisters)
  let window ← onLink (·.readWindow (.cpu (registers.sp + 1)))
  pure (registers.pc :: callAddresses window.bytes.toList)

def framesAt : Nat → List UInt16 → Action (List Frame)
  | _, [] => pure []
  | index, address :: others => do
    let window ← onLink (·.readWindow (.cpu address))
    let rest ← framesAt (index + 1) others
    pure (⟨index, address, Instruction.decode window.bytes.toList address⟩ :: rest)

/-- The call stack, the frame of the program counter first. -/
def backtrace : Action (List Frame) := do
  let addresses ← frameAddresses
  framesAt 0 addresses

def effectiveAddress : Action UInt16 := do
  let session ← get
  if session.frame.index = 0 then do
    let registers ← onLink (·.readRegisters)
    pure registers.pc
  else do
    let addresses ← frameAddresses
    pure (addresses.getD session.frame.index 0)

/-- The bytes of parameters of a function, if it is known. -/
def parameterBytes : Option Function → Int32
  | some caller => Int32.ofNat caller.paramSize.toNat
  | none => 0

def negativeBytes (function : Function) : Int32 :=
  ((function.locals.filter fun entry => entry.offset < 0).map fun entry =>
    Int32.ofNat entry.size).sum

/-- What the offsets of a frame's locals count from: the frames between the program counter and the
selected one count with their parameters. The sums are those of thirty-two-bit words. -/
def localBase (function : Function) (pointer : UInt16) (callers : List (Option Function)) :
    Int32 :=
  Int32.ofNat pointer.toNat + (callers.map parameterBytes).sum + negativeBytes function

def readLocal (location : Address) : Nat → Action LocalData
  | 1 => LocalData.byte <$> onLink (·.peek location)
  | 2 => LocalData.word <$> onLink (·.peekWord location)
  | 4 => LocalData.dword <$> onLink (·.peekDword location)
  | size => LocalData.raw <$> onLink (·.readRange location size)

def readLocals (base : Int32) : List LocalVariable → Action (List LocalValue)
  | [] => pure []
  | entry :: others => do
    let address := (base + entry.offset).toInt16.toUInt16
    let data ← readLocal (.cpu address) entry.size
    let rest ← readLocals base others
    pure (⟨entry.name, address, data⟩ :: rest)

/-- The locals of the selected frame. There are none where the function is not known. -/
def localsBy (functionAt : UInt16 → Option Function) : Action (List LocalValue) := do
  let session ← get
  let cursor := session.frame.index
  let addresses ← frameAddresses
  match functionAt (addresses.getD cursor 0) with
  | none => pure []
  | some function => do
    let pointer ← onLink (·.peekWord (.cpu session.config.softStackPointer))
    let callers := (addresses.tail.take cursor).map functionAt
    readLocals (localBase function pointer callers) function.locals

/-- The locals of the selected frame, with the functions of the symbols. -/
def locals (symbols : Symbols) : Action (List LocalValue) := localsBy symbols.functionContaining

end Action

end RemoteDebugger
