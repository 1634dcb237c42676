import OrdinalAdmission.Pipeline

/-!
# Configuration

A configuration is what a file and overrides can set: how annotation keys are spelled, which label
identifies a pod, and which features run in which order. It is valid when a pipeline can be built
from it; the first thing wrong with it is the error.
-/

namespace OrdinalAdmission

structure Config where
  stem : String := Annotations.Scheme.standard.stem
  separator : String := String.singleton Annotations.Scheme.standard.separator
  label : String := podNameLabel
  handlers : List String := Feature.standard.map (·.name)
  deriving DecidableEq, Repr, Inhabited

inductive ConfigError where
  | separatorLength (text : String)
  | scheme (reason : Annotations.SchemeError)
  | emptyLabel
  | unknownHandler (name : String)
  | repeatedHandler (name : String)
  | separatorInHandler (name : String) (separator : Char)
  | noFeature (name : String)
  | propertyWithoutValue (property : String)
  | propertyWithoutKey (property : String)
  deriving DecidableEq, Repr, Inhabited

def ConfigError.message : ConfigError → String
  | separatorLength text => s!"annotation.separator must be a single character, got '{text}'"
  | scheme reason => reason.message
  | emptyLabel => "identity.label must not be empty"
  | unknownHandler name =>
    s!"Unknown handler '{name}', expected one of: " ++
      ", ".intercalate (Feature.standard.map (·.name))
  | repeatedHandler name => s!"Handler '{name}' is registered more than once"
  | separatorInHandler name separator =>
    s!"Feature '{name}' contains the annotation separator '{separator}'"
  | noFeature name => s!"Unknown handler '{name}'"
  | propertyWithoutValue property => s!"invalid property '{property}', expected key=value"
  | propertyWithoutKey property => s!"property '{property}' has an empty key"

namespace Config

def separatorChar (config : Config) : Except ConfigError Char :=
  match config.separator.toList with
  | [c] => .ok c
  | _ => .error (.separatorLength config.separator)

def scheme (config : Config) : Except ConfigError Annotations.Scheme := do
  (Annotations.Scheme.make config.stem (← config.separatorChar)).mapError .scheme

/-- Checks handlers from left to right; `seen` are the ones before them. -/
def checkHandlers (separator : Char) : List String → List String → Except ConfigError Unit
  | _, [] => .ok ()
  | seen, name :: rest =>
    if !(Feature.standard.map (·.name)).contains name then .error (.unknownHandler name)
    else if seen.contains name then .error (.repeatedHandler name)
    else if name.toList.contains separator then .error (.separatorInHandler name separator)
    else checkHandlers separator (name :: seen) rest

def validate (config : Config) : Except ConfigError Unit := do
  let separator ← config.separatorChar
  let _ ← config.scheme
  if (Text.trim config.label).isEmpty then throw .emptyLabel
  checkHandlers separator [] config.handlers

def feature (name : String) : Except ConfigError Feature :=
  match Feature.ofName? name with
  | some feature => .ok feature
  | none => .error (.noFeature name)

def pipeline (config : Config) : Except ConfigError Pipeline := do
  config.validate
  let scheme ← config.scheme
  let features ← config.handlers.mapM feature
  return { identifier := .label config.label, scheme, features }

end Config

end OrdinalAdmission
