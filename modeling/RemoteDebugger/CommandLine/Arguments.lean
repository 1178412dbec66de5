import RemoteDebugger.Text.Basic

/-!
Arguments of a command line: options with a value, flags without one, and operands. An argument
that begins with a hyphen is an option or a flag, unless it is the hyphen alone or stands after a
double hyphen. No option and no flag is given twice.
-/

set_option autoImplicit false

namespace RemoteDebugger.CommandLine

inductive Form where
  /-- An option or a flag, with the value that an equals sign attaches to it. -/
  | named (name : Text) (value : Option Text)
  /-- The double hyphen, after which all arguments are operands. -/
  | separator
  /-- One hyphen and more. -/
  | short
  | operand
  deriving DecidableEq, Repr

def Form.of : Text → Form
  | ['-', '-'] => .separator
  | '-' :: '-' :: word =>
    match Text.cut? (· == '=') word with
    | some (name, value) => .named name (some value)
    | none => .named word none
  | ['-'] => .operand
  | '-' :: _ => .short
  | _ => .operand

structure Grammar where
  options : List Text := []
  flags : List Text := []

structure Arguments where
  options : List (Text × Text) := []
  flags : List Text := []
  operands : List Text := []
  deriving DecidableEq, Repr

namespace Arguments

def addOption (found : Arguments) (name value : Text) : Option Arguments :=
  if (found.options.lookup name).isSome then none
  else some { found with options := (name, value) :: found.options }

def addFlag (found : Arguments) (name : Text) : Option Arguments :=
  if name ∈ found.flags then none else some { found with flags := name :: found.flags }

def addOperands (found : Arguments) (words : List Text) : Arguments :=
  { found with operands := found.operands ++ words }

def addNamed (grammar : Grammar) (found : Arguments) (name : Text) :
    Option Text → Option Arguments
  | some value => if name ∈ grammar.options then found.addOption name value else none
  | none => if name ∈ grammar.flags then found.addFlag name else none

/-- Reads options and flags up to the first operand, and leaves the rest. -/
def readLeading (grammar : Grammar) : List Text → Arguments → Option (Arguments × List Text)
  | [], found => some (found, [])
  | [argument], found =>
    match Form.of argument with
    | .operand => some (found, [argument])
    | .separator => some (found, [argument])
    | .short => none
    | .named name value => (·, []) <$> found.addNamed grammar name value
  | argument :: following :: others, found =>
    match Form.of argument with
    | .operand => some (found, argument :: following :: others)
    | .separator => some (found, argument :: following :: others)
    | .short => none
    | .named name none =>
      if name ∈ grammar.options then
        if Form.of following = .operand then do
          readLeading grammar others (← found.addOption name following)
        else none
      else do readLeading grammar (following :: others) (← found.addNamed grammar name none)
    | .named name value => do
      readLeading grammar (following :: others) (← found.addNamed grammar name value)

/-- Reads all arguments. Between operands there may be options and flags, and a double hyphen ends
them. The number of arguments bounds the number of operands. -/
def readWithin (grammar : Grammar) : Nat → List Text → Arguments → Option Arguments
  | 0, _, _ => none
  | bound + 1, words, found => do
    match ← readLeading grammar words found with
    | (found, []) => pure found
    | (found, word :: others) =>
      if Form.of word = .separator then pure (found.addOperands others)
      else readWithin grammar bound others (found.addOperands [word])

def read (grammar : Grammar) (words : List Text) : Option Arguments :=
  readWithin grammar (words.length + 1) words {}

def value? (found : Arguments) (name : Text) : Option Text := found.options.lookup name

def has (found : Arguments) (name : Text) : Bool := found.flags.contains name

end Arguments

end RemoteDebugger.CommandLine
