import RemoteDebugger.Session.Code

/-!
What the command line prints. Every report is a list of lines.
-/

set_option autoImplicit false

namespace RemoteDebugger.CommandLine.Report

def registers (registers : Registers) : List Text :=
  let columns := [Text.hexWord registers.pc, Text.hexByte registers.a, Text.hexByte registers.x,
    Text.hexByte registers.y, Text.hexByte registers.z, Text.hexByte registers.b,
    Text.hexWord registers.sp, Text.hexWord registers.maph, Text.hexWord registers.mapl,
    Text.hexByte registers.lastOp]
  ["PC   A  X  Y  Z  B  SP   MAPH MAPL LAST-OP  P-FLAGS",
    Text.joined " " columns ++ "       " ++ registers.flags]

/-- A byte as a character, or a dot where it is no visible one. -/
def visible (byte : UInt8) : Char :=
  if 0x20 ≤ byte && byte < 0x7F then Char.ofNat byte.toNat else '.'

/-- A row of a dump: the address on the bus, the bytes, and the bytes as characters. -/
def dumpRow (address : Address) (row : List UInt8) : Text :=
  " :" ++ Text.hex 7 address.physical.toNat ++ ": " ++ Text.padRight 47 (Text.hexBytes row) ++
    "  " ++ row.map visible

def dump (start : Address) (bytes : List UInt8) : List Text :=
  (pieces 16 bytes).mapIdx fun index row => dumpRow (start.offset (UInt32.ofNat (16 * index))) row

def assembled (address : Address) (encoding : Encoding) : List Text :=
  [address.text ++ "  " ++ Text.hexBytes encoding.bytes]

def executed (registers : Registers) : List Text :=
  ["A=" ++ Text.hexByte registers.a ++ " X=" ++ Text.hexByte registers.x ++
    " Y=" ++ Text.hexByte registers.y ++ " Z=" ++ Text.hexByte registers.z ++
    " B=" ++ Text.hexByte registers.b ++ " SP=" ++ Text.hexWord registers.sp ++
    " P=" ++ registers.flags]

def frame (frame : Frame) : Text :=
  "#" ++ Text.decimal frame.index ++ ": $" ++ Text.hexWord frame.address ++ "  " ++
    frame.instruction.text

def locals (values : List LocalValue) : List Text :=
  if values.isEmpty then ["none found!"] else values.map LocalValue.text

end RemoteDebugger.CommandLine.Report
