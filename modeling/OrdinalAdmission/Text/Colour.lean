/-!
# Coloured text

A terminal that shows colours is told of one by an escape sequence and of its end by another.
-/

namespace OrdinalAdmission.Text

inductive Colour where
  | red
  | green
  | yellow
  | brightBlack
  deriving DecidableEq, Repr, Inhabited

def Colour.code : Colour → String
  | red => "31"
  | green => "32"
  | yellow => "33"
  | brightBlack => "90"

def paint (coloured : Bool) (colour : Colour) (text : String) : String :=
  if coloured then "\x1b[" ++ colour.code ++ "m" ++ text ++ "\x1b[0m" else text

@[simp] theorem paint_off (colour : Colour) (text : String) : paint false colour text = text := rfl

end OrdinalAdmission.Text
