import OrdinalAdmission.Preview.Row
import OrdinalAdmission.Text.Grid

/-!
# The preview of a StatefulSet

A title, a table with one row per pod, a line for every pod that is admitted as it is because
something is wrong, and a legend.
-/

namespace OrdinalAdmission.Preview

open Text (Cell paint)

def header : List Cell := [
  .ofText "POD", .ofText "ORDINAL" .center, .ofText "APPLIED", .ofText "HOST PORTS",
  .ofText "VOLUMES", .ofText "STATUS" .center]

/-- The items below each other, or a dash if there are none. -/
def stacked (items : List String) : Cell :=
  if items.isEmpty then .ofText "-" else .ofText ("\n".intercalate items)

def cells (row : Row) : List Cell := [
  .ofText row.pod,
  .ofText (row.ordinal.elim "-" fun ordinal => Decimal.text ordinal.toNat) .center,
  stacked row.applied,
  stacked row.hostPorts,
  stacked row.volumes,
  .ofText (row.status.icon ++ " " ++ row.status.label)]

def title (coloured : Bool) (set namespaceName : String) (count : Nat) : String :=
  let pods := paint coloured .brightBlack ("[" ++ Decimal.text count ++ " pods]")
  "╭─ " ++ namespaceName ++ "/" ++ set ++ " " ++ pods ++ " ─╮\n"

def note (coloured : Bool) (row : Row) : Option String :=
  row.status.detail?.map fun detail =>
    paint coloured .red row.status.icon ++ " " ++ row.pod ++ ": " ++ detail ++ "\n"

def legend (coloured : Bool) : String :=
  let icon (status : Status) : String := paint coloured status.colour status.icon
  "Legend: " ++ icon .mutated ++ " Mutated  " ++ icon .unchanged ++ " Unchanged  " ++
    icon (.failed "") ++ " Failed (admitted unmodified)\n"

def render (coloured : Bool) (set namespaceName : String) (rows : List Row) : String :=
  if rows.isEmpty then s!"StatefulSet '{set}' has no replicas to preview"
  else
    title coloured set namespaceName rows.length ++ Text.Grid.render header (rows.map cells) ++
      "\n" ++ String.join (rows.filterMap (note coloured)) ++ legend coloured

end OrdinalAdmission.Preview
