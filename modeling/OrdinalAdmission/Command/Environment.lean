import OrdinalAdmission.Command.Cluster

/-!
# What a command finds around it

A command sees the texts of files, the directory it runs in, what the environment variables say and
the clusters that can be asked. It changes none of that, so all of it is a value.
-/

namespace OrdinalAdmission.Command

inductive FileFault where
  | missing
  | notDirectory
  | directory
  | denied
  | undecodable
  deriving DecidableEq, Repr, Inhabited

namespace FileFault

def message : FileFault → String
  | missing => "No such file or directory (os error 2)"
  | notDirectory => "Not a directory (os error 20)"
  | directory => "Is a directory (os error 21)"
  | denied => "Permission denied (os error 13)"
  | undecodable => "stream did not contain valid UTF-8"

def isAbsence : FileFault → Bool
  | missing | notDirectory => true
  | directory | denied | undecodable => false

end FileFault

structure Environment where
  directory : String
  /-- The text of the file under a path, which may be relative to `directory`. -/
  file : String → Except FileFault String
  /-- The configuration file named by `SPODITOR_CONF_FILE`. -/
  configVariable : Option String := none
  /-- The kubeconfig file that is read when none is named. -/
  kubeconfig : Option String := none
  /-- The cluster that a kubeconfig and a context lead to, where there is a way to it. -/
  connect : (kubeconfig context : Option String) → Option Cluster := fun _ _ => none
  coloured : Bool := false

def defaultConfigFile : String := "/etc/spoditor/spoditor.toml"

namespace Environment

def absolute (environment : Environment) (path : String) : String :=
  if path.toList.head? = some '/' then path
  else if environment.directory.toList.getLast? = some '/' then environment.directory ++ path
  else environment.directory ++ "/" ++ path

end Environment

end OrdinalAdmission.Command
