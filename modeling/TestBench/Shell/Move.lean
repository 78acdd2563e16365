import TestBench.Shell.File

/-! The directory that the shell is in is known by the name under which it went there, in which the
parts that mean the same directory or the one above are resolved as text. -/
namespace TestBench.Shell

/-- The name under which a directory is known: two slashes in front are kept. -/
def knownName (directory target : String) : String :=
  let isDouble (name : String) : Bool :=
    name.startsWith "//" && !name.startsWith "///"
  let path := absolutePath directory target
  if isDouble (if target.startsWith "/" then target else directory) then "/" ++ path else path

def linkedDirectories : List (String × String) :=
  [("/bin", "/usr/bin"), ("/lib", "/usr/lib"), ("/sbin", "/usr/sbin")]

def physicalName (directory : String) : String :=
  let path := absolutePath "/" directory
  match linkedDirectories.find? fun link => path = link.1 || path.startsWith (link.1 ++ "/") with
  | some (start, target) => target ++ String.ofList (path.toList.drop start.length)
  | none => path

def showDirectory (physical : Bool) : ShellM Nat := do
  let directory := (← get).directory
  say 1 ((if physical then physicalName directory else directory) ++ "\n")
  return 0

/-- The target of a move as it is found in one of the directories of a list, and whether it is then
shown. -/
def searchTarget (s : State) (target : String) : String × Bool :=
  let parts := nameParts target
  let isPlain := target.startsWith "/" || parts.head? = some "." || parts.head? = some ".."
  match if isPlain then none else s.value? "CDPATH" with
  | none => (target, false)
  | some list =>
    let name (directory : String) : String :=
      if directory.isEmpty then target else directory ++ "/" ++ target
    match (list.splitOn ":").find? fun directory => isDirectory s (name directory) with
    | some directory => (name directory, !directory.isEmpty)
    | none => (target, false)

/-- Goes to a directory: that of the user if none is named, or the last one for a minus sign. -/
def changeDirectory (physical : Bool) (words : List String) : ShellM Nat := do
  let s ← get
  let wanted := match words.head? with
    | none => (s.value? "HOME").getD ""
    | some "-" => (s.value? "OLDPWD").getD ""
    | some target => target
  let (target, isFound) := searchTarget s (if wanted.isEmpty then "." else wanted)
  let path := knownName s.directory target
  if isDirectory s path then
    assign "OLDPWD" s.directory
    let directory := if physical then physicalName path else path
    modify fun s => { s with directory }
    assign "PWD" directory
    modify fun s => { s with bindings := s.bindings.map fun (name, v) =>
      (name, if name = "PWD" || name = "OLDPWD" then { v with exported := true } else v) }
    if isFound || words.head? = some "-" then say 1 (directory ++ "\n")
    return 0
  else failWith ("can't cd to " ++ wanted)

end TestBench.Shell
