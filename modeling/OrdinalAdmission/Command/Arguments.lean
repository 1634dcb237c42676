import OrdinalAdmission.Command.Setting

/-!
# Commands

The object of a command comes from a file or from the cluster. Arguments that name both or neither
are refused, by what the options ask of each other. `Command.parse` is the way from arguments to a
command.
-/

namespace OrdinalAdmission

namespace Command

/-- Where the object of a command comes from: the file under a path, or else what the cluster has
under a name. -/
structure Source where
  path? : Option String := none
  name? : Option String := none
  deriving DecidableEq, Repr, Inhabited

structure Input where
  source : Source
  namespaceName : String := "default"
  kubeconfig : Option String := none
  context : Option String := none
  configFile : Option String := none
  /-- Properties that override the configuration, in the order in which they are given. -/
  properties : List String := []
  deriving DecidableEq, Repr, Inhabited

end Command

inductive Command where
  | mutate (input : Command.Input) (output : Command.OutputFormat) (strict : Bool)
  | preview (input : Command.Input) (replicas : Option UInt32)
  deriving DecidableEq, Repr, Inhabited

namespace Command

def input : Command → Input
  | mutate input .. | preview input _ => input

namespace Setting

def path? : Setting → Option String
  | file path => some path
  | _ => none

def object? : Setting → Option String
  | pod name | statefulSet name => some name
  | _ => none

end Setting

namespace Source

def file (path : String) : Source := { path? := some path }

def ofSettings (settings : List Setting) : Source :=
  { path? := settings.findSome? Setting.path?, name? := settings.findSome? Setting.object? }

end Source

def Input.set (input : Input) : Setting → Input
  | .namespaceName name => { input with namespaceName := name }
  | .kubeconfig path => { input with kubeconfig := some path }
  | .context name => { input with context := some name }
  | .configFile path => { input with configFile := some path }
  | .property text => { input with properties := input.properties ++ [text] }
  | .file _ | .pod _ | .statefulSet _ | .output _ | .strict | .replicas _ => input

def Input.ofSettings (settings : List Setting) : Input :=
  settings.foldl Input.set { source := .ofSettings settings }

/-- Checks what options ask of each other: which exclude another, and which are required. -/
def checkPresence (subcommand : Subcommand) (settings : List Setting) : Except UsageError Unit :=
  let present (flag : Flag) := settings.any (·.flag == flag)
  if subcommand.flags.any fun flag => present flag && (subcommand.conflictsWith flag).any present
  then .error .severalSources
  else if subcommand.flags.any fun flag =>
    !present flag && (subcommand.requiredUnless flag).any (!present ·)
  then .error .missingSource
  else .ok ()

def ofSettings (subcommand : Subcommand) (settings : List Setting) :
    Except UsageError Command := do
  checkPresence subcommand settings
  let input := Input.ofSettings settings
  match subcommand with
  | .mutate =>
    let output := settings.findSome? fun
      | .output format => some format
      | _ => none
    return mutate input (output.getD .yaml) (settings.contains .strict)
  | .preview =>
    return preview input <| settings.findSome? fun
      | .replicas count => some count
      | _ => none

def isSubcommand (name : String) : Bool := name == "help" || (Subcommand.ofName? name).isSome

/-- Help on the subcommand that `names` lead to; subcommands have none of their own. -/
def help (names : List String) : UsageError :=
  match names with
  | [] => .helpRequested
  | name :: rest =>
    if !isSubcommand name then .unknownSubcommand name
    else match rest with
      | [] => .helpRequested
      | extra :: _ => .unknownSubcommand extra

def parse (arguments : List String) : Except UsageError Command :=
  match arguments with
  | [] => .error .nothingGiven
  | first :: rest =>
    match Form.of first with
    | .plain =>
      match Subcommand.ofName? first with
      | some subcommand => do ofSettings subcommand (← readSettings subcommand.flags {} rest)
      | none => .error (if first = "help" then help rest else .unknownSubcommand first)
    | .terminator => .error <| match rest with
      | [] => .nothingGiven
      | name :: _ => if isSubcommand name then .unknownArgument name else .unknownSubcommand name
    | .long "help" none | .short 'h' _ => .error .helpRequested
    | .long "version" none | .short 'V' _ => .error .versionRequested
    | .long name (some value) => .error <|
      if name = "help" || name = "version" then .unwantedValue .help value
      else .unknownArgument first
    | .long _ none | .short .. => .error (.unknownArgument first)

end Command

end OrdinalAdmission
