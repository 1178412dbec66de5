import RemoteDebugger.Text.Basic

/-!
Readers: each takes a first part of a text and leaves the rest, or refuses. A refusal takes
nothing, so of two readers the second starts where the first one did.
-/

set_option autoImplicit false

namespace RemoteDebugger.Toml

/-- A reader turns a text into a result and the rest of the text. -/
abbrev Reader := StateT Text Option

namespace Reader

def next (test : Char → Bool) : Reader Char
  | c :: rest => if test c then some (c, rest) else none
  | [] => none

/-- All characters up to the first one that fails the test. -/
def taken (test : Char → Bool) : Reader Text := fun text =>
  some (text.takeWhile test, text.dropWhile test)

def char (c : Char) : Reader Unit := (fun _ => ()) <$> next (· == c)

def beginning (expected : Text) : Reader Unit := fun text =>
  if expected.isPrefixOf text then some ((), text.drop expected.length) else none

def atEnd : Reader Unit := fun text => if text.isEmpty then some ((), text) else none

def maybe {α : Type} (item : Reader α) : Reader (Option α) := some <$> item <|> pure none

/-- As many items as there are, but no more than a bound. -/
def repeatedWithin {α : Type} (item : Reader α) : Nat → Reader (List α)
  | 0 => pure []
  | bound + 1 => fun text =>
    match item text with
    | none => some ([], text)
    | some (first, rest) =>
      (repeatedWithin item bound rest).map fun (items, rest) => (first :: items, rest)

/-- As many items as there are. An item takes a character, so the length of the text is bound
enough. -/
def repeated {α : Type} (item : Reader α) : Reader (List α) := fun text =>
  repeatedWithin item text.length text

def when {α : Type} (test : α → Bool) (item : Reader α) : Reader α := do
  let result ← item
  if test result then pure result else failure

/-- The result when the reader accepts the text to its end. -/
def whole? {α : Type} (item : Reader α) (text : Text) : Option α :=
  ((item <* atEnd) text).map Prod.fst

end Reader

end RemoteDebugger.Toml
