/-!
# TOML values

What a TOML document holds, as far as a configuration can ask for it: texts, lists and tables. Other
values have been checked by the time they get here and are told apart no further.
-/

namespace OrdinalAdmission.Toml

inductive Value where
  | text (s : String)
  | other
  | list (items : List Value)
  | table (entries : List (String × Value))
  deriving Inhabited

end OrdinalAdmission.Toml
