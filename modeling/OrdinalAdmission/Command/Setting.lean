import OrdinalAdmission.Command.Flag
import OrdinalAdmission.Command.Output
import OrdinalAdmission.Decimal.Numeral
import OrdinalAdmission.Text.Cut

/-!
# Settings

What the arguments of a subcommand say, one setting per option, in the order in which the options
are given. A value may follow its option as an argument of its own, come after an equals sign or,
behind a letter, directly. A value that stands apart is looked at only when the next option has been
recognised or the arguments end, so of two mistakes an unknown argument behind it is the one
reported.
-/

namespace OrdinalAdmission.Command

inductive Setting where
  | file (path : String)
  | pod (name : String)
  | statefulSet (name : String)
  | namespaceName (name : String)
  | kubeconfig (path : String)
  | context (name : String)
  | output (format : OutputFormat)
  | strict
  | replicas (count : UInt32)
  | configFile (path : String)
  | property (text : String)
  deriving DecidableEq, Repr, Inhabited

/-- A number of replicas: digits, with a sign or without. A negative number is none. -/
def count? (text : String) : Option UInt32 :=
  match text.toList with
  | '+' :: digits => if Decimal.isNumeral digits then Decimal.toUInt32? digits else none
  | '-' :: digits => if Decimal.isNumeral digits && Decimal.value digits == 0 then some 0 else none
  | digits => if Decimal.isNumeral digits then Decimal.toUInt32? digits else none

namespace Setting

def flag : Setting → Flag
  | file _ => .file
  | pod _ => .pod
  | statefulSet _ => .statefulSet
  | namespaceName _ => .namespaceName
  | kubeconfig _ => .kubeconfig
  | context _ => .context
  | output _ => .output
  | strict => .strict
  | replicas _ => .replicas
  | configFile _ => .configFile
  | property _ => .property

def make (value : String) : Flag → Except UsageError Setting
  | .file => .ok (file value)
  | .pod => .ok (pod value)
  | .statefulSet => .ok (statefulSet value)
  | .namespaceName => .ok (namespaceName value)
  | .kubeconfig => .ok (kubeconfig value)
  | .context => .ok (context value)
  | .output => match OutputFormat.ofName? value with
    | some format => .ok (output format)
    | none => .error (.unknownFormat value)
  | .strict => .ok strict
  | .replicas => match count? value with
    | some count => .ok (replicas count)
    | none => .error (.invalidCount value)
  | .configFile => .ok (configFile value)
  | .property => .ok (property value)
  | .help => .error .helpRequested

theorem flag_of_make {value : String} {given : Flag} {setting : Setting}
    (h : make value given = .ok setting) : setting.flag = given := by
  unfold make at h
  split at h
  case h_7 | h_9 => split at h <;> cases h; rfl
  all_goals cases h
  all_goals rfl

end Setting

inductive Form where
  /-- Two hyphens: no option comes behind them. -/
  | terminator
  | long (name : String) (value : Option String)
  | short (letter : Char) (value : Option String)
  | plain
  deriving DecidableEq, Repr, Inhabited

def Form.of (argument : String) : Form :=
  match argument.toList with
  | ['-', '-'] => terminator
  | '-' :: '-' :: rest =>
    match Text.cutFirst? '=' rest with
    | some (name, value) => long (String.ofList name) (some (String.ofList value))
    | none => long (String.ofList rest) none
  | ['-', letter] => short letter none
  | '-' :: letter :: '=' :: value => short letter (some (String.ofList value))
  | '-' :: letter :: value => short letter (some (String.ofList value))
  | _ => plain

/-- How far the arguments have been read: the settings made, and the option that comes last with
its value, if that stands apart; the value itself may still be to come. -/
structure Progress where
  settings : List Setting := []
  pending : Option (Flag × Option String) := none
  deriving DecidableEq, Repr, Inhabited

namespace Progress

def add (settings : List Setting) (flag : Flag) (value : String) :
    Except UsageError (List Setting) :=
  if !flag.repeatable && settings.any (·.flag == flag) then .error (.repeatedFlag flag)
  else (Setting.make value flag).map fun setting => settings ++ [setting]

def finish (progress : Progress) : Except UsageError (List Setting) :=
  match progress.pending with
  | none => .ok progress.settings
  | some (flag, none) => .error (.missingValue flag)
  | some (flag, some value) => add progress.settings flag value

def take (progress : Progress) (flag : Flag) (value : Option String) :
    Except UsageError Progress := do
  let settings ← progress.finish
  match flag.takesValue, value with
  | true, none => return { settings, pending := some (flag, none) }
  | true, some value => return { settings := ← add settings flag value }
  | false, _ => return { settings := ← add settings flag "" }

def step (flags : List Flag) (progress : Progress) (argument : String) :
    Except UsageError Progress :=
  match Form.of argument, progress.pending with
  | .plain, some (flag, none) => .ok { progress with pending := some (flag, some argument) }
  | .long name value, _ =>
    match flags.find? (·.name? == some name), value with
    | none, _ => .error (.unknownArgument argument)
    | some flag, none => progress.take flag none
    | some flag, some value =>
      if flag.takesValue then progress.take flag (some value)
      else .error (.unwantedValue flag value)
  | .short letter value, _ =>
    match flags.find? (·.letter? == some letter) with
    | none => .error (.unknownArgument argument)
    | some flag => progress.take flag value
  | .plain, _ | .terminator, _ => .error (.unknownArgument argument)

end Progress

def readSettings (flags : List Flag) (progress : Progress) :
    List String → Except UsageError (List Setting)
  | [] => progress.finish
  | argument :: rest =>
    match Form.of argument, rest with
    | .terminator, [] => progress.finish
    | .terminator, extra :: _ => .error (.unknownArgument extra)
    | _, _ => do readSettings flags (← progress.step flags argument) rest

end OrdinalAdmission.Command
