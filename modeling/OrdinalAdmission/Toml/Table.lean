import OrdinalAdmission.Toml.Value

/-!
# Building TOML tables

Statements of a document define tables piece by piece. What may still be extended depends on how a
table came about: through a header of its own, because a header names something inside it, or
through a dotted key. Nothing is defined twice.
-/

namespace OrdinalAdmission.Toml

inductive Origin where
  | header
  | implied
  | dotted
  deriving DecidableEq, Repr

inductive Item where
  | value (v : Value)
  | table (origin : Origin) (entries : List (String × Item))
  | tables (elements : List (List (String × Item)))
  deriving Inhabited

abbrev Entries := List (String × Item)

namespace Entries

def find? (key : String) (entries : Entries) : Option Item := entries.lookup key

def put (key : String) (item : Item) : Entries → Entries
  | [] => [(key, item)]
  | (k, old) :: rest => if k = key then (key, item) :: rest else (k, old) :: put key item rest

def editLast (edit : Entries → Option Entries) : List Entries → Option (List Entries)
  | [] => none
  | [entries] => (edit entries).map ([·])
  | entries :: more => (editLast edit more).map (entries :: ·)

/-- Edits the table that a header's path leads to; tables on the way are made as needed. -/
def editAt (edit : Entries → Option Entries) : List String → Entries → Option Entries
  | [], entries => edit entries
  | key :: path, entries => do
    let item ← match entries.find? key with
      | none => (editAt edit path []).map (.table .implied)
      | some (.value _) => none
      | some (.table origin inner) => (editAt edit path inner).map (.table origin)
      | some (.tables elements) => (editLast (editAt edit path) elements).map .tables
    return entries.put key item

/-- Defines a value under a dotted key. Tables on the way must not have a header of their own, and
the innermost must have come about through dotted keys. -/
def define (v : Value) : List String → Entries → Option Entries
  | [], _ => none
  | [key], entries =>
    if (entries.find? key).isSome then none else some (entries.put key (.value v))
  | key :: path, entries => do
    let item ← match entries.find? key with
      | none => (define v path []).map (.table .dotted)
      | some (.value _) => none
      | some (.table origin inner) =>
        if origin = .header || (path.length == 1 && origin != .dotted) then none
        else (define v path inner).map (.table origin)
      | some (.tables elements) =>
        if path.length == 1 then none else (editLast (define v path) elements).map .tables
    return entries.put key item

def openTable (key : String) (entries : Entries) : Option Entries :=
  match entries.find? key with
  | none => some (entries.put key (.table .header []))
  | some (.table .implied inner) => some (entries.put key (.table .header inner))
  | some _ => none

def appendTable (key : String) (entries : Entries) : Option Entries :=
  match entries.find? key with
  | none => some (entries.put key (.tables [[]]))
  | some (.tables elements) => some (entries.put key (.tables (elements ++ [[]])))
  | some _ => none

end Entries

mutual

def Item.toValue : Item → Value
  | .value v => v
  | .table _ entries => .table (entriesToValues entries)
  | .tables elements => .list (tablesToValues elements)

def entriesToValues : List (String × Item) → List (String × Value)
  | [] => []
  | (key, item) :: rest => (key, item.toValue) :: entriesToValues rest

def tablesToValues : List (List (String × Item)) → List Value
  | [] => []
  | entries :: rest => .table (entriesToValues entries) :: tablesToValues rest

end

end OrdinalAdmission.Toml
