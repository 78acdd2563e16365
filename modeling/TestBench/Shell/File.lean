import TestBench.Shell.Pattern
import TestBench.Shell.State

/-! What names of files lead to, seen from the directory that the shell is in: directories and
devices that there always are, and files that commands have made. A pattern in a word that names of
files fit stands for these names. -/
namespace TestBench.Shell

def knownDirectories : List String :=
  ["/", "/bin", "/boot", "/dev", "/dev/fd", "/dev/pts", "/dev/shm", "/etc", "/home", "/lib",
    "/media", "/mnt", "/opt", "/proc", "/root", "/run", "/sbin", "/srv", "/sys", "/tmp", "/usr",
    "/usr/bin", "/usr/games", "/usr/include", "/usr/lib", "/usr/local", "/usr/local/bin",
    "/usr/local/lib", "/usr/local/sbin", "/usr/sbin", "/usr/share", "/usr/src", "/var",
    "/var/cache", "/var/lib", "/var/log", "/var/mail", "/var/spool", "/var/tmp", startDirectory]

def closedDirectories : List String := ["/proc", "/sys", "/dev/fd", "/dev/pts"]

def deviceFiles : List String :=
  ["/dev/full", "/dev/null", "/dev/ptmx", "/dev/random", "/dev/tty", "/dev/urandom", "/dev/zero"]

def streamFiles : List (String × Nat) :=
  [("/dev/stdin", 0), ("/dev/stdout", 1), ("/dev/stderr", 2)] ++
    (List.range 10).map fun n => ("/dev/fd/" ++ toString n, n)

def knownFiles : List String :=
  ["/etc/group", "/etc/hostname", "/etc/hosts", "/etc/passwd", "/etc/resolv.conf", "/etc/shadow"]

def nameParts (name : String) : List String :=
  (name.splitOn "/").filter (!·.isEmpty)

/-- The parts of a name without those that mean the same directory or the one above, behind the
parts of a directory, of which the last one comes first. -/
def plainParts (above : List String) : List String → List String
  | [] => above.reverse
  | "." :: rest => plainParts above rest
  | ".." :: rest => plainParts (above.drop 1) rest
  | part :: rest => plainParts (part :: above) rest

def absolutePath (directory name : String) : String :=
  let above := if name.startsWith "/" then [] else (nameParts directory).reverse
  "/" ++ "/".intercalate (plainParts above (nameParts name))

inductive FileKind where
  | directory
  | device
  | regular
  deriving DecidableEq, Repr

def kindOfPath? (s : State) (path : String) : Option FileKind :=
  if knownDirectories.contains path then some .directory
  else if deviceFiles.contains path || (streamFiles.lookup path).isSome then some .device
  else if (s.file? path).isSome || knownFiles.contains path then some .regular
  else none

/-- What the name of a file leads to. A slash behind it asks for a directory. -/
def kindOf? (s : State) (name : String) : Option FileKind :=
  if name.isEmpty then none
  else
    (kindOfPath? s (absolutePath s.directory name)).filter fun kind =>
      kind == .directory || !name.endsWith "/"

def isDirectory (s : State) (name : String) : Bool :=
  kindOf? s name == some .directory

/-- What a file that is there holds; devices hold nothing. -/
def contents? (s : State) (name : String) : Option (List UInt8) :=
  match kindOf? s name with
  | none | some .directory => none
  | some _ =>
    let path := absolutePath s.directory name
    match streamFiles.lookup path with
    | some number => s.readable? number
    | none => some ((s.file? path).getD [])

def pathsIn (s : State) (directory : String) : List String :=
  let start := if directory = "/" then directory else directory ++ "/"
  let all := knownDirectories ++ deviceFiles ++ streamFiles.map (·.1) ++ knownFiles ++
    s.files.map (·.1)
  ((all.filter fun path =>
    path ≠ "/" && path.startsWith start && !(path.toList.drop start.length).contains '/')).eraseDups

/-- The names in a directory that fit a pattern: one that starts with a point only if the pattern
does. -/
def namesFitting (s : State) (directory : String) (part : List (Char × Bool)) : List String :=
  let pattern := Pattern.ofSigns part.length part
  let names := (pathsIn s directory).map fun path => (nameParts path).getLastD ""
  let hidden := part.head?.any (·.1 = '.')
  let names := if hidden then "." :: ".." :: names else names
  names.filter fun name =>
    pattern.fits name.toList && (hidden || !name.startsWith ".")

def patternParts (signs : List (Char × Bool)) : List (List (Char × Bool) × String) :=
  signs.foldr (fun sign parts =>
    match parts with
    | [] => if sign.1 = '/' then [([], "/")] else [([sign], "")]
    | (part, slashes) :: more =>
      if sign.1 ≠ '/' then (sign :: part, slashes) :: more
      else if part.isEmpty then ([], "/" ++ slashes) :: more
      else ([], "/") :: (part, slashes) :: more) []

def isOpenPart (part : List (Char × Bool)) : Bool :=
  (Pattern.ofSigns part.length part).any fun
    | .char _ => false
    | _ => true

/-- The names of files that fit the parts of a pattern, each behind what has been found. -/
def expandParts (s : State) (found : String) : List (List (Char × Bool) × String) → List String
  | [] => if found.isEmpty || (kindOf? s found).isNone then [] else [found]
  | (part, slashes) :: rest =>
    if isOpenPart part then
      let directory := absolutePath s.directory (if found.isEmpty then "." else found)
      (namesFitting s directory part).flatMap fun name =>
        let next := found ++ name ++ slashes
        if slashes.isEmpty || isDirectory s next then expandParts s next rest else []
    else expandParts s (found ++ String.ofList (part.map (·.1)) ++ slashes) rest

/-- The names of files that marks stand for, in order; none if they are no pattern or nothing fits
them. -/
def namesOf (s : State) (marks : List Mark) : List String :=
  if s.hasOption "noglob" ||
      !(marks.any fun m => m.isActive '*' || m.isActive '?' || m.isActive '[') then []
  else
    (expandParts s "" (patternParts (Pattern.signsOf marks))).mergeSort fun a b => !(b < a)

end TestBench.Shell
