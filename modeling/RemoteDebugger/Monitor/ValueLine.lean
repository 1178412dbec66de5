import RemoteDebugger.Memory.Window
import RemoteDebugger.Monitor.Registers
import RemoteDebugger.Text.Blank

/-!
Value lines: the reply lines that carry registers or memory. The debugger reads them, with noise
refused, and a monitor prints them.
-/

set_option autoImplicit false

namespace RemoteDebugger

namespace Registers

/-- The column heads that a monitor prints above the registers. -/
def header : Text :=
  "PC   A  X  Y  Z  B  SP   MAPH MAPL LAST-OP     P  P-FLAGS   RGP uS IO"

/-- The register line: thirteen columns, of which the first twelve are hexadecimal. -/
def line (registers : Registers) : Text :=
  Text.joined " " [Text.hexWord registers.pc, Text.hexByte registers.a, Text.hexByte registers.x,
    Text.hexByte registers.y, Text.hexByte registers.z, Text.hexByte registers.b,
    Text.hexWord registers.sp, Text.hexWord registers.maph, Text.hexWord registers.mapl,
    Text.hexByte registers.lastOp, Text.hexByte registers.reserved.1,
    Text.hexByte registers.reserved.2, registers.flags]

def byteField? (field : Text) : Option UInt8 :=
  if field.length ≤ 2 then (Text.readHex8 field).toOption else none

def wordField? (field : Text) : Option UInt16 :=
  if field.length ≤ 4 then (Text.readHex16 field).toOption else none

/-- Reads the first thirteen columns; further ones are ignored. -/
def ofFields? : List Text → Option Registers
  | pc :: a :: x :: y :: z :: b :: sp :: maph :: mapl :: lastOp :: first :: second :: flags ::
      _ => do
    pure {
      pc := ← wordField? pc
      a := ← byteField? a
      x := ← byteField? x
      y := ← byteField? y
      z := ← byteField? z
      b := ← byteField? b
      sp := ← wordField? sp
      maph := ← wordField? maph
      mapl := ← wordField? mapl
      lastOp := ← byteField? lastOp
      reserved := (← byteField? first, ← byteField? second)
      flags }
  | _ => none

/-- The registers of a register line; any other line has none. -/
def ofLine? (line : Text) : Option Registers := ofFields? (Text.words line)

end Registers

namespace Window

/-- The memory line: address and thirty-two lower-case digits. -/
def line (window : Window) : Text :=
  ':' :: Text.hex 7 window.base.toNat ++
    ':' :: window.bytes.toList.flatMap fun byte => Text.hexLower 2 byte.toNat

def pairs? : Text → Option (List UInt8)
  | [] => some []
  | [_] => none
  | high :: low :: rest => do
    let byte ← (Text.readHex8 [high, low]).toOption
    let others ← pairs? rest
    pure (byte :: others)

/-- Sixteen bytes from the first thirty-two characters that are no ASCII blanks. -/
def data? (text : Text) : Option (Vector UInt8 16) := do
  let bytes ← pairs? ((text.filter fun c => !Text.isAsciiBlank c).take 32)
  if count : bytes.length = 16 then pure ⟨bytes.toArray, count⟩ else none

/-- The window of a memory line: a colon, an address, a colon and the data. -/
def ofLine? (line : Text) : Option Window :=
  match Text.trim line with
  | ':' :: rest => do
    let (address, data) ← Text.cut? (· == ':') rest
    let base ← (Text.readHex32 (Text.trim address)).toOption
    let bytes ← data? data
    pure ⟨base, bytes⟩
  | _ => none

end Window

end RemoteDebugger
