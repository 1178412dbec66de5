import RemoteDebugger.Text.Basic

/-!
Numbers in text. Reading accepts one leading plus sign, digits of either case and any number of
leading zeros, and stops at the first fault: a bad digit is seen before an overflow at the same
place. Writing gives hexadecimal digits padded with zeros to a width.
-/

set_option autoImplicit false

namespace RemoteDebugger

/-- Why a text is no number of the range that is asked for. -/
inductive NumeralError where
  | empty
  | invalidDigit
  | tooLarge
  deriving DecidableEq, Repr

def NumeralError.message : NumeralError → String
  | .empty => "cannot parse integer from empty string"
  | .invalidDigit => "invalid digit found in string"
  | .tooLarge => "number too large to fit in target type"

namespace Text

def digit? (radix : Nat) (c : Char) : Option Nat :=
  let value :=
    if '0' ≤ c ∧ c ≤ '9' then c.toNat - 48
    else if 'a' ≤ c ∧ c ≤ 'z' then c.toNat - 87
    else if 'A' ≤ c ∧ c ≤ 'Z' then c.toNat - 55
    else radix
  if value < radix then some value else none

/-- Reads digits from the most significant one, with the value of those already read. -/
def readDigits (radix limit : Nat) : Nat → Text → Except NumeralError Nat
  | value, [] => .ok value
  | value, c :: rest =>
    match digit? radix c with
    | none => .error .invalidDigit
    | some d =>
      if value * radix + d ≤ limit then readDigits radix limit (value * radix + d) rest
      else .error .tooLarge

/-- Reads a number that is at most the limit. A sign alone has no digits. -/
def readNat (radix limit : Nat) : Text → Except NumeralError Nat
  | [] => .error .empty
  | ['+'] => .error .invalidDigit
  | '+' :: digits => readDigits radix limit 0 digits
  | digits => readDigits radix limit 0 digits

def readHex8 (text : Text) : Except NumeralError UInt8 :=
  (readNat 16 0xFF text).map UInt8.ofNat

def readHex16 (text : Text) : Except NumeralError UInt16 :=
  (readNat 16 0xFFFF text).map UInt16.ofNat

def readHex32 (text : Text) : Except NumeralError UInt32 :=
  (readNat 16 0xFFFFFFFF text).map UInt32.ofNat

/-- Exactly so many hexadecimal digits, the lowest ones of the number. -/
def lowHex : Nat → Nat → Text
  | 0, _ => []
  | width + 1, n => lowHex width (n / 16) ++ [Nat.digitChar (n % 16)]

/-- Lower-case hexadecimal with at least so many digits, and as many more as it needs. -/
def hexLower (width n : Nat) : Text := lowHex (max width (n.log2 / 4 + 1)) n

/-- Upper-case hexadecimal with at least so many digits, and as many more as it needs. -/
def hex (width n : Nat) : Text := upper (hexLower width n)

def hexByte (byte : UInt8) : Text := hex 2 byte.toNat

def hexWord (word : UInt16) : Text := hex 4 word.toNat

/-- Bytes as pairs of upper-case digits with one space between neighbours. -/
def hexBytes (bytes : List UInt8) : Text := joined " " (bytes.map hexByte)

def decimal (n : Nat) : Text := Nat.toDigits 10 n

theorem length_lowHex (width n : Nat) : (lowHex width n).length = width := by
  induction width generalizing n with
  | zero => rfl
  | succ width ih => simp [lowHex, ih]

end Text

end RemoteDebugger
