import RemoteDebugger.Text.Basic

/-!
Text on a byte stream. A line is sent and received as UTF-8; bytes that are not UTF-8 are no text.
-/

set_option autoImplicit false

namespace RemoteDebugger.Text

def toUtf8 (text : Text) : List UInt8 := text.flatMap String.utf8EncodeChar

/-- The text that the bytes encode, if they encode one. -/
def ofUtf8? (bytes : List UInt8) : Option Text :=
  (ByteArray.mk bytes.toArray).utf8Decode?.map Array.toList

end RemoteDebugger.Text
