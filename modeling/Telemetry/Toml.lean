import Telemetry.Binary64
import Telemetry.Table

/-!
Documents of tables, arrays and scalars, with the rules on who may add to a table.

A table may be defined once, by a header or in braces. The tables on the way to a header
exist without being defined and may still be. A dotted key makes tables on its way and adds
to those that dotted keys have made.
-/

set_option autoImplicit false

namespace Telemetry.Toml

/-- How a table that is not written in braces came to be. -/
inductive TableKind where
  /-- It lies on the way to a header. -/
  | implied
  | dotted
  | defined
  deriving DecidableEq

inductive Value where
  | text (value : String)
  | int (value : Int)
  | float (value : Binary64)
  | bool (value : Bool)
  | moment (spelling : String)
  | array (items : List Value)
  | inline (entries : List (String × Value))
  | table (kind : TableKind) (entries : List (String × Value))
  /-- Tables under one header that repeats. -/
  | tables (rows : List (List (String × Value)))

abbrev Entries := List (String × Value)

namespace Entries

def get? (entries : Entries) (key : String) : Option Value := Telemetry.Entries.find? key entries

def set (entries : Entries) (key : String) (value : Value) : Entries :=
  Telemetry.Entries.put key (fun _ => value) entries

def assign? (path : List String) (key : String) (value : Value) (entries : Entries) :
    Option Entries :=
  match path with
  | [] => if (entries.get? key).isSome then none else some (entries.set key value)
  | name :: path =>
    match entries.get? name with
    | none => (assign? path key value []).map fun inner => entries.set name (.table .dotted inner)
    | some (.table kind inner) =>
      if kind = .defined || (path.isEmpty && kind ≠ .dotted) then none
      else (assign? path key value inner).map fun inner => entries.set name (.table kind inner)
    | some (.tables rows) =>
      match rows.reverse with
      | [] => none
      | row :: earlier =>
        if path.isEmpty then none
        else (assign? path key value row).map fun row =>
          entries.set name (.tables (row :: earlier).reverse)
    | some _ => none

/-- Change the table at the end of a path; of repeated tables the last is meant. -/
def change? (path : List String) (change : Entries → Option Entries) (entries : Entries) :
    Option Entries :=
  match path with
  | [] => change entries
  | name :: path =>
    match entries.get? name with
    | none => (change? path change []).map fun inner => entries.set name (.table .implied inner)
    | some (.table kind inner) =>
      (change? path change inner).map fun inner => entries.set name (.table kind inner)
    | some (.tables rows) =>
      match rows.reverse with
      | [] => none
      | row :: earlier =>
        (change? path change row).map fun row =>
          entries.set name (.tables (row :: earlier).reverse)
    | some _ => none

def define? (key : String) (entries : Entries) : Option Entries :=
  match entries.get? key with
  | none => some (entries.set key (.table .defined []))
  | some (.table .implied inner) => some (entries.set key (.table .defined inner))
  | some _ => none

def addRow? (key : String) (entries : Entries) : Option Entries :=
  match entries.get? key with
  | none => some (entries.set key (.tables [[]]))
  | some (.tables rows) => some (entries.set key (.tables (rows ++ [[]])))
  | some _ => none

end Entries

structure Key where
  path : List String
  name : String
  deriving DecidableEq

inductive Statement where
  | header (key : Key)
  | row (key : Key)
  | assign (key : Key) (value : Value)

/-- A document that is being read, with the path of the table that assignments go to. -/
structure Draft where
  root : Entries := []
  current : List String := []

namespace Draft

def step? (draft : Draft) : Statement → Option Draft
  | .header key => do
    let root ← draft.root.change? key.path (Entries.define? key.name)
    return ⟨root, key.path ++ [key.name]⟩
  | .row key => do
    let root ← draft.root.change? key.path (Entries.addRow? key.name)
    return ⟨root, key.path ++ [key.name]⟩
  | .assign key value => do
    let root ← draft.root.change? draft.current (Entries.assign? key.path key.name value)
    return { draft with root }

end Draft

def ofStatements? (statements : List Statement) : Option Entries :=
  (statements.foldlM Draft.step? {}).map (·.root)

end Telemetry.Toml
