import OrdinalAdmission.Command.Run

/-!
# The program

Reads the files that a command may need, runs it, and writes what it reports.
-/

namespace OrdinalAdmission

open Command

def usage : String :=
"Ordinal-aware pod mutation for Kubernetes StatefulSets

Usage: spoditor mutate (-f FILE | --pod NAME) [OPTIONS]
       spoditor preview (-f FILE | -s NAME) [OPTIONS]

Options:
  -f, --file <FILE>          manifest to read (YAML or JSON)
      --pod <NAME>           mutate: pod to fetch from the cluster
  -s, --statefulset <NAME>   preview: StatefulSet to fetch from the cluster
  -n, --namespace <NAME>     Kubernetes namespace [default: default]
      --kubeconfig <PATH>    kubeconfig file
      --context <NAME>       Kubernetes context
  -o, --output <FORMAT>      mutate: yaml, json or patch [default: yaml]
      --strict               mutate: fail when the pipeline fails
      --replicas <COUNT>     preview: number of ordinals
      --config-file <PATH>   configuration file
  -D <KEY=VALUE>             configuration property
  -h, --help                 print help
  -V, --version              print version
"

def spelling (flag : Flag) : String :=
  match flag.name?, flag.letter? with
  | some name, _ => "--" ++ name
  | none, some letter => "-" ++ String.singleton letter
  | none, none => ""

def explain : UsageError → String
  | .helpRequested | .nothingGiven => usage
  | .versionRequested => "spoditor 0.1.0\n"
  | .unknownSubcommand name => s!"error: unrecognized subcommand '{name}'\n"
  | .unknownArgument argument => s!"error: unexpected argument '{argument}' found\n"
  | .missingValue flag => s!"error: a value is required for '{spelling flag}'\n"
  | .unwantedValue flag value => s!"error: unexpected value '{value}' for '{spelling flag}'\n"
  | .unknownFormat value => s!"error: invalid value '{value}' for '--output'\n"
  | .invalidCount value => s!"error: invalid value '{value}' for '--replicas'\n"
  | .repeatedFlag flag => s!"error: '{spelling flag}' cannot be used multiple times\n"
  | .severalSources => "error: a file and an object of the cluster cannot both be given\n"
  | .missingSource => "error: a file or an object of the cluster is required\n"

def readFile (path : String) : IO (Except FileFault String) := do
  try
    return .ok (← IO.FS.readFile path)
  catch error =>
    return .error <| match error with
      | .noFileOrDirectory .. | .noSuchThing .. => .missing
      | .permissionDenied .. => .denied
      | .inappropriateType .. => .directory
      | _ => .undecodable

def observe (command : Command) : IO Environment := do
  let home ← IO.getEnv "HOME"
  let kubeconfig ← IO.getEnv "KUBECONFIG"
  let bare : Environment := {
    directory := (← IO.currentDir).toString
    file := fun _ => .error .missing
    configVariable := ← IO.getEnv "SPODITOR_CONF_FILE"
    kubeconfig := kubeconfig <|> home.map (· ++ "/.kube/config")
    coloured := ← (← IO.getStdout).isTty }
  let texts ← (command.paths bare).mapM fun path => return (path, ← readFile path)
  return { bare with file := fun path => (texts.lookup path).getD (.error .missing) }

end OrdinalAdmission

open OrdinalAdmission in
def main (arguments : List String) : IO UInt32 := do
  let output ← IO.getStdout
  let remarks ← IO.getStderr
  match Command.parse arguments with
  | .error .helpRequested => output.putStr usage; return 0
  | .error .versionRequested => output.putStr (explain .versionRequested); return 0
  | .error error => remarks.putStr (explain error); return 2
  | .ok command =>
    let report := command.run (← observe command)
    remarks.putStr report.remarks
    output.putStr report.output
    match report.failure with
    | none => return 0
    | some failure =>
      remarks.putStr ("Error: " ++ failure.message ++ "\n")
      return 1
