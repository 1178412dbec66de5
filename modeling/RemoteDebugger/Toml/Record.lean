import RemoteDebugger.Toml.Value

/-!
Records in a document. A record is written as a table with a key for each field, or as an array
that gives the fields in order. Keys and items that are no field do not matter.
-/

set_option autoImplicit false

namespace RemoteDebugger.Toml

namespace Value

def fields? (names : List Text) : Value → Option (List (Option Value))
  | table _ entries => some (names.map fun name => entries.lookup name)
  | array _ items => some ((List.range names.length).map fun place => items[place]?)
  | _ => none

def text? : Value → Option Text
  | text content => some content
  | _ => none

def integerWithin? (least greatest : Int) : Value → Option Int
  | integer number => if least ≤ number ∧ number ≤ greatest then some number else none
  | _ => none

def natural? (limit : Nat) (value : Value) : Option Nat :=
  (value.integerWithin? 0 limit).map Int.toNat

def word? (value : Value) : Option UInt16 := (value.natural? 0xFFFF).map UInt16.ofNat

def list? {α : Type} (item? : Value → Option α) : Value → Option (List α)
  | array _ items => items.mapM item?
  | _ => none

end Value

def required? {α : Type} (read? : Value → Option α) (field : Option Value) : Option α :=
  field.bind read?

/-- A field with a value of its own where it is missing. -/
def optional? {α : Type} (read? : Value → Option α) (default : α) : Option Value → Option α
  | none => some default
  | some value => read? value

end RemoteDebugger.Toml
