import RemoteDebugger.Text.Invisible
import RemoteDebugger.Text.Numeral

/-!
Text in double quotes. What would end the quotation, begin an escape or not be seen is escaped, so
the quoted text is one visible line.
-/

set_option autoImplicit false

namespace RemoteDebugger.Text

def quotedChar (c : Char) : Text :=
  match c with
  | '"' => "\\\""
  | '\\' => "\\\\"
  | '\t' => "\\t"
  | '\r' => "\\r"
  | '\n' => "\\n"
  | '\x00' => "\\0"
  | _ => if isInvisible c then "\\u\x7b" ++ hexLower 1 c.toNat ++ "\x7d" else [c]

def quoted (text : Text) : Text := "\"" ++ text.flatMap quotedChar ++ "\""

end RemoteDebugger.Text
