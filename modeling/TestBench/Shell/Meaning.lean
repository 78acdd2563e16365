import TestBench.Shell.Program
import TestBench.Shell.Signal

/-! A name of a command can be a keyword, an alias, a function, a command that the shell has itself,
or a program. Programs are looked for in the directories of a list, and remembered once they are
found. -/
namespace TestBench.Shell

inductive Meaning where
  | keyword
  | alias (text : String)
  | function
  | own
  | program (path : String)
  deriving DecidableEq, Repr

def ordinaryCommands : List String :=
  ["alias", "bg", "cd", "chdir", "command", "echo", "false", "fg", "getopts", "hash", "jobs",
    "kill", "printf", "pwd", "read", "test", "[", "true", "type", "ulimit", "umask", "unalias",
    "wait"]

def isOwnCommand (name : String) : Bool :=
  ordinaryCommands.contains name || specialCommands.contains name

def searchedDirectories (s : State) : List String :=
  ((s.value? "PATH").getD "/usr/sbin:/usr/bin:/sbin:/bin").splitOn ":"

def programPath? (s : State) (name : String) : Option String :=
  let isProgram (program : String) : Bool :=
    ["sh", "dash"].contains program || (program? s program []).isSome
  if name.contains '/' then
    (programOfPath? name).bind fun program => if isProgram program then some name else none
  else if isProgram name then
    ((searchedDirectories s).find? programDirectories.contains).map (· ++ "/" ++ name)
  else none

def programFault (s : State) (name : String) : String × Nat :=
  if name.contains '/' then
    if (kindOf? s name).isSome then ("Permission denied", 126) else ("not found", 127)
  else if ["", ".."].contains name then ("Permission denied", 127)
  else ("not found", 127)

def meaning? (s : State) (name : String) : Option Meaning :=
  if keywords.contains name then some .keyword
  else
    match s.aliases.lookup name with
    | some text => some (.alias text)
    | none =>
      if (s.functions.lookup name).isSome then some .function
      else if isOwnCommand name then some .own
      else if name.contains '/' && (kindOf? s name).isSome then some (.program name)
      else (programPath? s name).map .program

def aliasLine (name text : String) : String :=
  name ++ "=" ++ singleQuoted text ++ "\n"

def description? (s : State) (short : Bool) (name : String) : Option String :=
  (meaning? s name).map fun
    | .keyword => if short then name ++ "\n" else name ++ " is a shell keyword\n"
    | .alias text =>
      if short then "alias " ++ aliasLine name text else name ++ " is an alias for " ++ text ++ "\n"
    | .function => if short then name ++ "\n" else name ++ " is a shell function\n"
    | .own =>
      if short then name ++ "\n"
      else if specialCommands.contains name then name ++ " is a special shell builtin\n"
      else name ++ " is a shell builtin\n"
    | .program path =>
      if short then path ++ "\n"
      else if s.found.contains name then name ++ " is a tracked alias for " ++ path ++ "\n"
      else name ++ " is " ++ path ++ "\n"

def remember (name : String) : ShellM Unit :=
  modify fun s =>
    if name.contains '/' || s.found.contains name then s else { s with found := s.found ++ [name] }

/-- Says what names of commands stand for. A program that was looked for is remembered, unless with
`isUsual` it was looked for in the usual directories. -/
def describeAll (isUsual short : Bool) (names : List String) : ShellM Nat :=
  names.foldlM (fun code name => do
    let s ← get
    let s := if isUsual then { s.putVariable "PATH" none with found := [] } else s
    match description? s short name with
    | some text =>
      say 1 text
      if let some (.program _) := meaning? s name then
        if !isUsual then remember name
      return code
    | none =>
      if !short then say 1 (name ++ ": not found\n")
      return 127) 0

/-- The place of a name in a list of so many parts: names are listed in the order of their
places. -/
def listPlace (parts : Nat) (name : String) : Nat :=
  let codes := name.toList.map Char.toNat
  (16 * codes.headD 0 + codes.foldl (· + ·) 0) % 0x8000 % parts

/-- Looks for programs so that they are found at once when they are called, lists those that have
been found, or forgets them. -/
def lookUpAll (forget : Bool) (names : List String) : ShellM Nat := do
  if forget then
    modify fun s => { s with found := [] }
    return 0
  else if names.isEmpty then
    let s ← get
    (s.found.mergeSort fun a b => listPlace 31 a ≤ listPlace 31 b).forM fun name =>
      say 1 ((programPath? s name).getD name ++ "\n")
    return 0
  else
    names.foldlM (fun code name => do
      match meaning? (← get) name with
      | some (.program _) =>
        remember name
        return code
      | some _ => return code
      | none =>
        complain (name ++ ": " ++ (programFault (← get) name).1)
        return 1) 0

def newAlias? (word : String) : Option (String × String) :=
  match word.toList with
  | [] => none
  | c :: cs =>
    let name := cs.takeWhile (· ≠ '=')
    match cs.drop name.length with
    | _ :: text => some (String.ofList (c :: name), String.ofList text)
    | [] => none

/-- Sets aliases, or lists them: all of them if none is named. What is wrong is said first. -/
def setAliases (words : List String) : ShellM Nat := do
  let all := (← get).aliases.mergeSort fun a b => listPlace 39 a.1 ≤ listPlace 39 b.1
  let mut listed := if words.isEmpty then all else []
  let mut code := 0
  for word in words do
    match newAlias? word, (← get).aliases.lookup word with
    | some (name, text), _ => modify (·.setAlias name text)
    | none, some text => listed := listed ++ [(word, text)]
    | none, none =>
      warn ("alias: " ++ word ++ " not found\n")
      code := 1
  listed.forM fun (name, text) => say 1 (aliasLine name text)
  return code

def forgetAliases (all : Bool) (names : List String) : ShellM Nat := do
  if all then
    modify fun s => { s with aliases := [] }
    return 0
  else
    names.foldlM (fun code name => do
      if ((← get).aliases.lookup name).isSome then
        modify fun s => { s with aliases := s.aliases.filter (·.1 ≠ name) }
        return code
      else
        warn ("unalias: " ++ name ++ " not found\n")
        return 1) 0

end TestBench.Shell
