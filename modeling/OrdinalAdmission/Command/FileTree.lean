import OrdinalAdmission.Command.Environment
import OrdinalAdmission.Text.Cut

/-!
# A file system held in memory

One directory with files, in a system that has nothing else but its top directories and the null
device. It lets a command run without touching any disk.
-/

namespace OrdinalAdmission.Command

structure FileTree where
  directory : String
  /-- The files' texts by their paths from `directory` on. -/
  files : List (String × String)

namespace FileTree

def components (path : String) : List String :=
  (Text.pieces '/' path.toList).map String.ofList

def walk (files : List (List String × String)) (directory : List String) :
    List String → Except FileFault String
  | [] => .error .directory
  | "" :: rest | "." :: rest => walk files directory rest
  | ".." :: rest =>
    if directory.isEmpty then .error (if rest.isEmpty then .directory else .missing)
    else walk files directory.dropLast rest
  | name :: rest =>
    let path := directory ++ [name]
    match files.lookup path with
    | some text => if rest.isEmpty then .ok text else .error .notDirectory
    | none =>
      if files.any fun (file, _) => path.isPrefixOf file then walk files path rest
      else .error .missing

/-- What stands outside the directory. An entry `.`, which no path leads to, makes a directory. -/
def system : List (List String × String) := [
  (["dev", "null"], ""), (["etc", "."], ""), (["tmp", "."], "")]

def read (tree : FileTree) (path : String) : Except FileFault String :=
  let own := (tree.directory ++ "/").toList
  let files := tree.files.map fun (name, text) => (components name, text)
  if path.isEmpty then .error .missing
  else if own.isPrefixOf path.toList then
    walk files [] (components (String.ofList (path.toList.drop own.length)))
  else if path.toList.head? = some '/' then walk system [] (components path)
  else walk files [] (components path)

end FileTree

end OrdinalAdmission.Command
