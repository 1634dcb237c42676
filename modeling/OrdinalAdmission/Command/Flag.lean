/-!
# Subcommands and their options

An option has a long name, a letter or both. All options but two take a value, and all but one may
be given once only.
-/

namespace OrdinalAdmission.Command

inductive Subcommand where
  | mutate
  | preview
  deriving DecidableEq, Repr, Inhabited

inductive Flag where
  | file
  | pod
  | statefulSet
  | namespaceName
  | kubeconfig
  | context
  | output
  | strict
  | replicas
  | configFile
  | property
  | help
  deriving DecidableEq, Repr, Inhabited

namespace Flag

def name? : Flag → Option String
  | file => some "file"
  | pod => some "pod"
  | statefulSet => some "statefulset"
  | namespaceName => some "namespace"
  | kubeconfig => some "kubeconfig"
  | context => some "context"
  | output => some "output"
  | strict => some "strict"
  | replicas => some "replicas"
  | configFile => some "config-file"
  | property => none
  | help => some "help"

def letter? : Flag → Option Char
  | file => some 'f'
  | statefulSet => some 's'
  | namespaceName => some 'n'
  | output => some 'o'
  | property => some 'D'
  | help => some 'h'
  | pod | kubeconfig | context | strict | replicas | configFile => none

def takesValue (flag : Flag) : Bool := flag != strict && flag != help

def repeatable (flag : Flag) : Bool := flag == property

end Flag

namespace Subcommand

def ofName? : String → Option Subcommand
  | "mutate" => some mutate
  | "preview" => some preview
  | _ => none

def flags : Subcommand → List Flag
  | mutate => [.file, .pod, .namespaceName, .kubeconfig, .context, .output, .strict, .configFile,
      .property, .help]
  | preview => [.file, .statefulSet, .namespaceName, .kubeconfig, .context, .replicas, .configFile,
      .property, .help]

def conflictsWith : Subcommand → Flag → Option Flag
  | mutate, .file => some .pod
  | preview, .file => some .statefulSet
  | _, _ => none

def requiredUnless : Subcommand → Flag → Option Flag
  | mutate, .file => some .pod
  | preview, .file => some .statefulSet
  | _, _ => none

end Subcommand

inductive UsageError where
  | helpRequested
  | versionRequested
  | nothingGiven
  | unknownSubcommand (name : String)
  | unknownArgument (argument : String)
  | missingValue (flag : Flag)
  | unwantedValue (flag : Flag) (value : String)
  | unknownFormat (value : String)
  | invalidCount (value : String)
  | repeatedFlag (flag : Flag)
  | severalSources
  | missingSource
  deriving DecidableEq, Repr, Inhabited

end OrdinalAdmission.Command
