import RemoteDebugger.Toml.Scalar

/-!
Documents: a sequence of statements, each of which gives a key a value or names the table that the
following keys belong to. Reading yields the entries of the outermost table, or refuses.
-/

set_option autoImplicit false

namespace RemoteDebugger.Toml

open Reader

/-- How deep values nest, and how long a key with dots is, at most. -/
def depthLimit : Nat := 79

def comment : Reader Unit := char '#' *> (fun _ => ()) <$> taken isPrintable

/-- Blanks, line ends and comments between the items of an array. -/
def gap : Reader Unit := do
  let _ ← repeated ((fun _ => ()) <$> next isBlank <|> newline <|> comment *> newline)

def isBareKey (c : Char) : Bool := c.isAlphanum || c == '_' || c == '-'

def keyPart : Reader Text := when (· != []) (taken isBareKey) <|> basicString <|> literalString

/-- A key: the parts before the last one, and the last one. -/
def key : Reader (List Text × Text) := do
  let spaced := blanks *> keyPart <* blanks
  let first ← spaced
  let others ← repeated (char '.' *> spaced)
  let parts := first :: others
  if parts.length ≤ depthLimit then pure (parts.dropLast, parts.getLast?.getD [])
  else failure

structure Assignment where
  path : List Text
  key : Text
  value : Value

def assignment (value : Reader Value) : Reader Assignment := do
  let (path, key) ← key
  char '='
  blanks
  pure ⟨path, key, ← value⟩

/-- The items of an array. After the last one a comma may stand. -/
def arrayItems (value : Reader Value) : Reader (List Value) := do
  char '['
  let item := gap *> value <* gap
  let first ← maybe item
  match first with
  | none =>
    gap
    char ']'
    pure []
  | some first =>
    let others ← repeated (char ',' *> item)
    let _ ← maybe (char ',')
    gap
    char ']'
    pure (first :: others)

/-- The assignments of an inline table, all on one line and without a comma at the end. -/
def inlineAssignments (value : Reader Value) : Reader (List Assignment) := do
  char '{'
  let item := assignment value <* blanks
  let items ← maybe do
    let first ← item
    let others ← repeated (char ',' *> item)
    pure (first :: others)
  blanks
  char '}'
  pure (items.getD [])

def value : Nat → Reader Value
  | 0 => scalar
  | depth + 1 =>
    scalar <|>
    Value.array .inline <$> arrayItems (value depth) <|> do
      let assignments ← inlineAssignments (value depth)
      let entries := assignments.foldlM
        (fun entries item => Entries.assign item.key item.value item.path entries) []
      match entries with
      | some entries => pure (.table .inline entries)
      | none => failure

/-- A statement. A row is a header with doubled brackets. -/
inductive Statement where
  | assign (assignment : Assignment)
  | table (path : List Text) (key : Text)
  | row (path : List Text) (key : Text)

def statement : Reader (Option Statement) :=
  (do
    beginning "[["
    let (path, key) ← key
    beginning "]]"
    pure (some (.row path key))) <|>
  (do
    char '['
    let (path, key) ← key
    char ']'
    pure (some (.table path key))) <|>
  (some ∘ .assign) <$> assignment (value depthLimit) <|>
  pure none

/-- A line: a statement, a comment, both or neither. The last line has no line end. -/
def line (ending : Reader Unit) : Reader (Option Statement) :=
  blanks *> statement <* blanks <* maybe comment <* ending

/-- The statements of a document, after a byte order mark if there is one. -/
def statements : Reader (List Statement) := do
  let _ ← maybe (char '\ufeff')
  let lines ← repeated (line newline)
  let last ← line atEnd
  pure ((lines ++ [last]).filterMap id)

/-- A document in the making: all entries so far, and the table that keys are added to. -/
structure Progress where
  entries : Entries := []
  current : List Text := []

/-- Adds a statement, unless it contradicts an earlier one. -/
def Progress.add (progress : Progress) : Statement → Option Progress
  | .assign item => do
    let added ← Entries.alterAt (Entries.assign item.key item.value item.path) progress.current
      progress.entries
    pure ⟨added, progress.current⟩
  | .table path key => do
    pure ⟨← Entries.alterAt (Entries.openTable key) path progress.entries, path ++ [key]⟩
  | .row path key => do
    pure ⟨← Entries.alterAt (Entries.openRow key) path progress.entries, path ++ [key]⟩

def entriesOf? (text : Text) : Option Entries := do
  let statements ← whole? statements text
  let progress ← statements.foldlM Progress.add {}
  pure progress.entries

end RemoteDebugger.Toml
