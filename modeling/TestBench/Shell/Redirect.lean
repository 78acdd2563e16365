import TestBench.Shell.File

/-! What becomes of the open files of a command when one of them is to lead to a file, to a text, or
to where another one leads. What cannot be done ends the command with a message. -/
namespace TestBench.Shell

def openAt (number : Nat) (f : OpenFile) : ShellM Unit :=
  modify fun s =>
    let (h, s) := s.openFile f
    { s with streams := (number, h) :: s.streams.filter (·.1 != number) }

def close (number : Nat) : ShellM Unit :=
  modify fun s => { s with streams := s.streams.filter (·.1 != number) }

/-- Lets an open file lead to where another one leads. If that cannot be done it is closed, for
`isSaved` says that it will be put back. -/
def copyStream (isSaved : Bool) (number from_ : Nat) : ShellM Unit := do
  if number = from_ then return
  match (← get).streams.lookup from_ with
  | some h =>
    modify fun s => { s with streams := (number, h) :: s.streams.filter (·.1 != number) }
  | none =>
    if isSaved then close number
    failWith (toString from_ ++ ": Bad file descriptor")

def creationFault? (s : State) (name path : String) : Option String :=
  let parent := "/" ++ "/".intercalate (nameParts path).dropLast
  if name.isEmpty || kindOfPath? s parent != some .directory || closedDirectories.contains parent
    then some "Directory nonexistent"
  else if name.endsWith "/" then some "Is a directory"
  else if (nameParts path).any (255 < ·.length) then some "File name too long"
  else none

def openingFault? (s : State) (mode : RedirectMode) (name : String) : Option String :=
  match mode, kindOf? s name with
  | .read, none => some "No such file"
  | .read, some _ => none
  | _, some .directory => some "Is a directory"
  | .write, some .regular => if s.hasOption "noclobber" then some "File exists" else none
  | _, some _ => none
  | _, none => creationFault? s name (absolutePath s.directory name)

def openNamed (number : Nat) (mode : RedirectMode) (name : String) : ShellM Unit := do
  let s ← get
  let path := absolutePath s.directory name
  match openingFault? s mode name with
  | some reason =>
    failWith ((if mode = .read then "cannot open " else "cannot create ") ++ name ++ ": " ++ reason)
  | none =>
    if path = "/dev/tty" then
      failWith ((if mode = .read then "cannot open " else "cannot create ") ++ name ++
        ": No such device or address")
    match streamFiles.lookup path with
    | some from_ => copyStream false number from_
    | none =>
      let place := match path with
        | "/dev/null" => .nowhere
        | "/dev/full" => .zeros true
        | "/dev/zero" => .zeros false
        | _ => if isDirectory s name then .nowhere else .file path
      let reads := mode = .read || mode = .readWrite
      let makes := match mode with
        | .write | .overwrite => true
        | .append | .readWrite => (s.file? path).isNone
        | _ => false
      if place = .file path && makes then modify (·.setFile path [])
      openAt number { place, reads, writes := mode ≠ .read, appends := mode = .append }

def failWithNumber : ShellM Unit := do
  modify fun s => { s with line := s.nextLine }
  failWith "Syntax error: Bad fd number"

def checkTarget (mode : RedirectMode) (target : String) : ShellM Unit :=
  if mode ≠ .copy || target = "-" || (target.length = 1 && target.toList.all Char.isDigit) then
    pure ()
  else failWithNumber

/-- Changes one of the open files, which `isSaved` says will be put back; `target` is the name of a
file or the number of an open one, or the text that is to be read. -/
def redirect (isSaved : Bool) (number : Nat) (mode : RedirectMode) (target : String) :
    ShellM Unit := do
  match mode with
  | .text _ => openAt number { place := .text (toBytes target), reads := true }
  | .copy =>
    match natural? target with
    | some from_ => copyStream isSaved number from_
    | none => close number
  | _ => openNamed number mode target

end TestBench.Shell
