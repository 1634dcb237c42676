import OrdinalAdmission.Config.Basic
import OrdinalAdmission.Toml.Document

/-!
# Configuration files

A file has three tables, `annotation`, `identity` and `pipeline`; a missing table or key leaves the
setting at its default and an unknown one is ignored. A table may also be written as the list of its
values in order.
-/

namespace OrdinalAdmission.Config

open Toml (Value)

def text? : Value → Option String
  | .text s => some s
  | _ => none

def texts? : Value → Option (List String)
  | .list items => items.mapM text?
  | _ => none

abbrev Setting := String × (Value → Config → Option Config)

def annotationSettings : List Setting := [
  ("prefix", fun v config => (text? v).map fun s => { config with stem := s }),
  ("separator", fun v config => (text? v).map fun s => { config with separator := s })]

def identitySettings : List Setting := [
  ("label", fun v config => (text? v).map fun s => { config with label := s })]

def pipelineSettings : List Setting := [
  ("handlers", fun v config => (texts? v).map fun names => { config with handlers := names })]

/-- The settings that the values of a list give in order; values past the last are ignored. -/
def readList : List Setting → List Value → Config → Option Config
  | (_, update) :: settings, v :: values, config => do
    readList settings values (← update v config)
  | _, _, config => some config

def readEntries (settings : List Setting) : List (String × Value) → Config → Option Config
  | [], config => some config
  | (key, v) :: rest, config => do
    match settings.lookup key with
    | some update => readEntries settings rest (← update v config)
    | none => readEntries settings rest config

/-- The configuration with what a table, or a list in its place, sets. -/
def readTable (settings : List Setting) : Value → Config → Option Config
  | .table entries, config => readEntries settings entries config
  | .list values, config => readList settings values config
  | .text _, _ | .other, _ => none

def tables : List Setting := [
  ("annotation", readTable annotationSettings),
  ("identity", readTable identitySettings),
  ("pipeline", readTable pipelineSettings)]

/-- The configuration a file's text describes; `none` if it is no TOML or has a value of the wrong
type. -/
def ofToml? (source : String) : Option Config := do
  readTable tables (← Toml.parse? source) {}

end OrdinalAdmission.Config
