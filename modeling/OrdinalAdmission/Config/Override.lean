import OrdinalAdmission.Config.Basic

/-!
# Overrides

A property `key=value` given on the command line overrides one setting. The text is cut at its first
equals sign and both sides are trimmed; of several properties with one key the last counts, and keys
that name no setting are ignored.
-/

namespace OrdinalAdmission.Config.Override

def property (text : String) : Except ConfigError (String × String) :=
  match Text.cutFirst? '=' text.toList with
  | none => .error (.propertyWithoutValue text)
  | some (key, value) =>
    let key := Text.trim (String.ofList key)
    if key.isEmpty then .error (.propertyWithoutKey text)
    else .ok (key, Text.trim (String.ofList value))

/-- The properties by key; the first bad one is the error. -/
def parse (properties : List String) : Except ConfigError TextMap :=
  (properties.mapM property).map .ofList

def items (text : String) : List String :=
  ((Text.pieces ',' text.toList).map fun piece => Text.trim (String.ofList piece)).filter
    fun item => !item.isEmpty

def apply (overrides : TextMap) (config : Config) : Config where
  stem := (overrides.get? "spoditor.annotation.prefix").getD config.stem
  separator := (overrides.get? "spoditor.annotation.separator").getD config.separator
  label := (overrides.get? "spoditor.identity.label").getD config.label
  handlers := ((overrides.get? "spoditor.pipeline.handlers").map items).getD config.handlers

end OrdinalAdmission.Config.Override
