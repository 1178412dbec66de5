import RemoteDebugger.Config.Basic
import RemoteDebugger.Link.Dialogue
import RemoteDebugger.Symbols.Basic
import RemoteDebugger.Text.Utf8

/-!
Files of settings and of symbols. A file is a fault or bytes, the bytes may be text, and a reader of
documents, of which nothing is assumed here, may find in the text what was looked for.
-/

set_option autoImplicit false

namespace RemoteDebugger

inductive FileError where
  /-- The file has no text. -/
  | unreadable (cause : Fault)
  /-- The text is no document of the expected kind. -/
  | malformed
  deriving DecidableEq, Repr

def FileError.message (path : Text) : FileError → Text
  | .unreadable cause => "cannot read config file " ++ path ++ ": " ++ cause.text
  | .malformed => "invalid config: " ++ path

/-- The failure of reading a file that does not exist. -/
def Fault.noSuchFile : Fault := ⟨"No such file or directory (os error 2)"⟩

def interpretFile {α : Type} (ofText? : Text → Option α) (content : Except Fault (List UInt8)) :
    Except FileError α := do
  let bytes ← content.mapError .unreadable
  match Text.ofUtf8? bytes with
  | none => throw (.unreadable .notText)
  | some text =>
    match ofText? text with
    | none => throw .malformed
    | some value => pure value

/-- What settings a text holds, and what symbols it declares. The syntax of documents is left to it. -/
structure Documents where
  config? : Text → Option Config
  symbols? : Text → Option Symbols

end RemoteDebugger
