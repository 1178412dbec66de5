import RemoteDebugger.Text.Blank
import RemoteDebugger.Text.Numeral

/-!
Commands of the serial monitor, as values and as the lines that are sent. A command line is one
letter and hexadecimal numbers; the empty line is the single step.
-/

set_option autoImplicit false

namespace RemoteDebugger

inductive Command where
  | readRegisters
  | readWindow (physical : UInt32)
  | readBulk (physical : UInt32)
  | write (physical : UInt32) (bytes : List UInt8)
  | setBreakpoint (address : UInt16)
  | setPc (address : UInt16)
  | setRunning (running : Bool)
  | singleStep
  | stepOver
  deriving DecidableEq, Repr

namespace Command

/-- The line to send. Monitor addresses are cut to twenty-eight bits; the bulk read pads to four
digits only. -/
def line : Command → Text
  | readRegisters => "r"
  | readWindow physical => 'm' :: Text.hex 7 (physical &&& 0x0FFFFFFF).toNat
  | readBulk physical => 'M' :: Text.hex 4 (physical &&& 0x0FFFFFFF).toNat
  | write physical bytes =>
    's' :: Text.hex 7 (physical &&& 0x0FFFFFFF).toNat ++
      bytes.flatMap fun byte => ' ' :: Text.hexByte byte
  | setBreakpoint address => 'b' :: Text.hexWord address
  | setPc address => 'g' :: Text.hexWord address
  | setRunning true => "t0"
  | setRunning false => "t1"
  | singleStep => []
  | stepOver => "N"

def number? (text : Text) : Option UInt32 := (Text.readHex32 text).toOption

/-- Reads the fields of a write: an address and bytes, cut to eight bits each. -/
def ofWriteFields? : List Text → Option Command
  | [] => none
  | address :: bytes => do
    let physical ← number? address
    let values ← bytes.mapM number?
    pure (write physical (values.map UInt32.toUInt8))

def ofLine? : Text → Option Command
  | [] => some singleStep
  | ['r'] => some readRegisters
  | ['N'] => some stepOver
  | ['t', '0'] => some (setRunning true)
  | ['t', '1'] => some (setRunning false)
  | 'm' :: rest => (number? rest).map readWindow
  | 'M' :: rest => (number? rest).map readBulk
  | 's' :: rest => ofWriteFields? (Text.words rest)
  | 'b' :: rest => (number? rest).map fun value => setBreakpoint value.toUInt16
  | 'g' :: rest => (number? rest).map fun value => setPc value.toUInt16
  | _ => none

end Command

end RemoteDebugger
