import RemoteDebugger.Memory.Address
import RemoteDebugger.Text.Numeral

/-!
Numbers on the command line. Counts are decimal. Addresses are hexadecimal, with or without a
dollar sign or a marker before them, and their size tells which of the two forms they have.
-/

set_option autoImplicit false

namespace RemoteDebugger.CommandLine

/-- Why an argument is no number of the expected kind. -/
inductive NumberError where
  | invalidHex (text : Text) (cause : NumeralError)
  | notCpuAddress (text : Text)
  | notByte
  deriving DecidableEq, Repr

namespace NumberError

def message : NumberError → Text
  | invalidHex text _ => "invalid hex value '" ++ text ++ "'"
  | notCpuAddress text => "'" ++ text ++ "' is not a 16-bit address"
  | notByte => "byte out of range"

/-- What lies behind the error: a number that is read but does not fit is too large. -/
def cause : NumberError → NumeralError
  | invalidHex _ cause => cause
  | notCpuAddress _ | notByte => .tooLarge

def explanation (error : NumberError) : Text := error.message ++ ": " ++ error.cause.message

end NumberError

/-- The text without the marker of a hexadecimal number, if it has one. -/
def hexDigits : Text → Text
  | '$' :: digits => digits
  | '0' :: 'x' :: digits => digits
  | digits => digits

def readHex (text : Text) : Except NumberError UInt32 :=
  (Text.readHex32 (hexDigits text)).mapError (.invalidHex text)

/-- Reads an address: the processor's view up to sixteen bits, and flat memory beyond. -/
def readAddress (text : Text) : Except NumberError Address := Address.ofNumber <$> readHex text

def readCpuAddress (text : Text) : Except NumberError UInt16 := do
  let number ← readHex text
  if number ≤ 0xFFFF then pure number.toUInt16 else throw (.notCpuAddress text)

def readByte (text : Text) : Except NumberError UInt8 := do
  let number ← readHex text
  if number ≤ 0xFF then pure number.toUInt8 else throw .notByte

def readSize? (text : Text) : Option Nat := (Text.readNat 10 0xFFFFFFFFFFFFFFFF text).toOption

/-- Reads how often something is done. Zero may have a minus sign. -/
def readTimes? : Text → Option Nat
  | '-' :: digits => if digits != [] && digits.all (· == '0') then some 0 else none
  | text => (Text.readNat 10 0xFFFFFFFF text).toOption

end RemoteDebugger.CommandLine
