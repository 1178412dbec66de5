import RemoteDebugger.Text.Basic

/-!
Values of a document, and the rules by which statements add to a table. A table is open to some
statements and closed to others, which depends on how it came to be: see `Origin`.
-/

set_option autoImplicit false

namespace RemoteDebugger.Toml

inductive Origin where
  /-- Written as a value: complete, nothing is added later. -/
  | inline
  /-- Named by a header. -/
  | header
  /-- On the way to a table that a header names. -/
  | implied
  /-- On the way to a key with dots. -/
  | dotted
  deriving DecidableEq

/-- A value. Of floats and dates only the place is kept: no setting has one. -/
inductive Value where
  | text (content : Text)
  | integer (number : Int)
  | boolean (value : Bool)
  | unused
  | array (origin : Origin) (items : List Value)
  | table (origin : Origin) (entries : List (Text × Value))

/-- The entries of a table, in the order in which their keys first occur. -/
abbrev Entries := List (Text × Value)

namespace Entries

/-- Changes or adds the value of one key, unless the change is refused. -/
def alter (key : Text) (change : Option Value → Option Value) : Entries → Option Entries
  | [] => (change none).map fun value => [(key, value)]
  | (name, value) :: entries =>
    if name = key then (change (some value)).map fun value => (name, value) :: entries
    else (alter key change entries).map fun entries => (name, value) :: entries

/-- Changes the entries of the last row of a table array. -/
def alterLast (change : Entries → Option Entries) (rows : List Value) : Option (List Value) :=
  match rows.getLast? with
  | some (.table origin entries) =>
    (change entries).map fun entries => rows.dropLast ++ [.table origin entries]
  | _ => none

/-- Gives a value to a key that has none. The keys before it lead through tables that dotted keys
made; a table that a header implies may be passed but not added to. -/
def assign (key : Text) (value : Value) : List Text → Entries → Option Entries
  | [], entries =>
    alter key (fun
      | none => some value
      | some _ => none) entries
  | step :: path, entries =>
    alter step (fun
      | none => (assign key value path []).map (Value.table .dotted)
      | some (.table .dotted inner) => (assign key value path inner).map (Value.table .dotted)
      | some (.table .implied inner) =>
        if path.isEmpty then none
        else (assign key value path inner).map (Value.table .implied)
      | some (.array .header rows) =>
        if path.isEmpty then none
        else (alterLast (assign key value path) rows).map (Value.array .header)
      | _ => none) entries

/-- Changes the table at the end of a path. Tables on the way are made where they are missing, and
of a table array the last row is meant. -/
def alterAt (change : Entries → Option Entries) : List Text → Entries → Option Entries
  | [], entries => change entries
  | step :: path, entries =>
    alter step (fun
      | none => (alterAt change path []).map (Value.table .implied)
      | some (.table .inline _) => none
      | some (.table origin inner) => (alterAt change path inner).map (Value.table origin)
      | some (.array .header rows) =>
        (alterLast (alterAt change path) rows).map (Value.array .header)
      | _ => none) entries

/-- A header names a table that is new or so far only implied. -/
def openTable (key : Text) : Entries → Option Entries :=
  alter key fun
    | none => some (.table .header [])
    | some (.table .implied inner) => some (.table .header inner)
    | _ => none

/-- A doubled header adds a row to a table array, which it makes if there is none. -/
def openRow (key : Text) : Entries → Option Entries :=
  alter key fun
    | none => some (.array .header [.table .header []])
    | some (.array .header rows) => some (.array .header (rows ++ [.table .header []]))
    | _ => none

end Entries

end RemoteDebugger.Toml
