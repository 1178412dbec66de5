import RemoteDebugger.Text.Blank
import RemoteDebugger.Text.Numeral

/-!
Operands as a person writes them. Blanks and the case of letters do not count. What is read is a
shape and its numbers; which addressing mode serves the shape is for the encoder to choose.
-/

set_option autoImplicit false

namespace RemoteDebugger

inductive Operand where
  | none
  | indirectX (value : UInt16)
  | zeroPageRelative (zeroPage target : UInt16)
  | indirectY (value : UInt16)
  | indirectZ (value : UInt16)
  | indexedX (value : UInt16)
  | indexedY (value : UInt16)
  | indirect (value : UInt16)
  | stackIndirectY (value : UInt16)
  | direct (value : UInt16)
  | immediate (value : UInt16)
  deriving DecidableEq, Repr

inductive Radix where
  | hexadecimal
  | binary
  | decimal
  deriving DecidableEq, Repr

def Radix.base : Radix → Nat
  | .hexadecimal => 16
  | .binary => 2
  | .decimal => 10

def Radix.name : Radix → String
  | .hexadecimal => "hex"
  | .binary => "binary"
  | .decimal => "decimal"

inductive NumberError where
  | empty
  | malformed (radix : Radix) (text : Text) (cause : NumeralError)
  deriving DecidableEq, Repr

def NumberError.message : NumberError → String
  | .empty => "empty number string"
  | .malformed radix text cause =>
    s!"invalid {radix.name} number '{String.ofList text}': {cause.message}"

inductive OperandError where
  | emptyLine
  | number (cause : NumberError)
  | unclosed (text : Text)
  | trailing (after : Text)
  deriving DecidableEq, Repr

def OperandError.message : OperandError → String
  | .emptyLine => "empty line"
  | .number cause => cause.message
  | .unclosed text => s!"missing ')' in '{String.ofList text}'"
  | .trailing after => s!"unexpected '{String.ofList after}' after indirect operand"

namespace Operand

/-- Reads the digits of a notation; the whole number is quoted if they are faulty. -/
def readDigitsOf (radix : Radix) (whole digits : Text) : Except NumberError UInt16 :=
  match Text.readNat radix.base 0xFFFF digits with
  | .ok value => .ok (UInt16.ofNat value)
  | .error cause => .error (.malformed radix whole cause)

/-- Reads `$` and hexadecimal digits, `%` and binary digits, or decimal digits. -/
def readNumber (text : Text) : Except NumberError UInt16 :=
  match Text.trim text with
  | [] => .error .empty
  | '$' :: digits => readDigitsOf .hexadecimal (Text.trim text) digits
  | '%' :: digits => readDigitsOf .binary (Text.trim text) digits
  | digits => readDigitsOf .decimal digits digits

def number (shape : UInt16 → Operand) (text : Text) : Except OperandError Operand :=
  match readNumber text with
  | .ok value => .ok (shape value)
  | .error cause => .error (.number cause)

/-- The operand whose parentheses hold `inner` and have `after` behind them. -/
def readIndirect (inner after : Text) : Except OperandError Operand :=
  if after = [] then
    match Text.dropEnding? ",X" inner with
    | some base => number indirectX base
    | Option.none => number indirect inner
  else if after = ",Y".toList then
    match Text.dropEnding? ",SP" inner with
    | some base => number stackIndirectY base
    | Option.none => number indirectY inner
  else if after = ",Z".toList then number indirectZ inner
  else .error (.trailing after)

/-- The operand without parentheses: one number, an index, or the two numbers of a bit branch. -/
def readPlain (compact : Text) : Except OperandError Operand :=
  match Text.cut? (· == ',') compact with
  | Option.none => number direct compact
  | some (base, ['X']) => number indexedX base
  | some (base, ['Y']) => number indexedY base
  | some (zeroPage, target) =>
    match readNumber zeroPage with
    | .error cause => .error (.number cause)
    | .ok value => number (zeroPageRelative value) target

/-- Reads an operand. The empty text and `A` both mean that there is none. -/
def read (text : Text) : Except OperandError Operand :=
  match Text.upper (Text.squeeze text) with
  | [] => .ok none
  | ['A'] => .ok none
  | '#' :: value => number immediate value
  | '(' :: rest =>
    match Text.cut? (· == ')') rest with
    | Option.none => .error (.unclosed text)
    | some (inner, after) => readIndirect inner after
  | compact => readPlain compact

def description : Operand → String
  | none => "None"
  | indirectX value => s!"IndirectX({value.toNat})"
  | zeroPageRelative zeroPage target =>
    s!"ZeroPageRelative({zeroPage.toNat}, {target.toNat})"
  | indirectY value => s!"IndirectY({value.toNat})"
  | indirectZ value => s!"IndirectZ({value.toNat})"
  | indexedX value => s!"IndexedX({value.toNat})"
  | indexedY value => s!"IndexedY({value.toNat})"
  | indirect value => s!"Indirect({value.toNat})"
  | stackIndirectY value => s!"StackIndirectY({value.toNat})"
  | direct value => s!"Direct({value.toNat})"
  | immediate value => s!"Immediate({value.toNat})"

end Operand

end RemoteDebugger
