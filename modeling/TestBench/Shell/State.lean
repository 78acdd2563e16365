import TestBench.Shell.Field
import TestBench.Shell.Read

/-! What commands read and change: variables and functions, the files that are open, and what has
been written. An output goes to the screen, to a file, to the shell itself that collects it, or
nowhere. -/
namespace TestBench.Shell

inductive Place where
  | screen
  | nowhere
  /-- Zeros without end; with `full` nothing can be written. -/
  | zeros (full : Bool)
  | file (path : String)
  /-- An output that is being collected; the number tells those under way apart. -/
  | collected (number : Nat)
  | text (left : List UInt8)
  deriving DecidableEq, Repr

structure OpenFile where
  place : Place
  position : Nat := 0
  reads : Bool := false
  writes : Bool := false
  appends : Bool := false
  deriving DecidableEq, Repr

/-- The open files of a command by their numbers; what stands for a file tells under which number
the shell knows it, so that copies are read and written together. -/
abbrev Streams := List (Nat × Nat)

structure Variable where
  value : Option String := none
  exported : Bool := false
  fixed : Bool := false
  deriving DecidableEq, Repr

/-- What is put back when a function or a command ends. -/
inductive Saved where
  | variable (name : String) (before : Option Variable)
  | options (names : List String)
  deriving DecidableEq, Repr

inductive Ending where
  | exited (code : Nat)
  | killed (signal : Nat)
  deriving DecidableEq, Repr

def Ending.code : Ending → Nat
  | .exited code => code
  | .killed signal => 128 + signal

def shellName : String := "/bin/sh"

def processNumber : String := "4711"

def startDirectory : String := "/work"

def startVariables : List (String × Variable) :=
  [("HOME", "/root"), ("PATH", "/usr/local/sbin:/usr/local/bin:/usr/sbin:/usr/bin:/sbin:/bin"),
    ("PWD", startDirectory)].map (fun (name, value) =>
      (name, { value := some value, exported := true })) ++
  [("IFS", " \t\n"), ("OPTIND", "1"), ("PPID", "4710"), ("PS1", "# "), ("PS2", "> "),
    ("PS4", "+ ")].map fun (name, value) => (name, { value := some value })

structure State where
  name : String := shellName
  bindings : List (String × Variable) := startVariables
  /-- What is put back when the functions and commands that run end, the innermost first. -/
  saved : List (List Saved) := []
  arguments : List String := []
  /-- The number of the argument that options are looked for in, and how far that has been done. -/
  optionPlace : Nat × Option Nat := (1, none)
  functions : List (String × Command) := []
  aliases : List (String × String) := []
  found : List String := []
  texts : List (Nat × Word) := []
  nextText : Nat := 0
  /-- What is done at a signal, or at the end for the number zero. -/
  traps : List (Nat × String) := []
  /-- The exit code from before what is done at a signal, while that is done. -/
  codeBefore : Option Nat := none
  pending : List Nat := []
  sent : List Nat := []
  isApart : Bool := false
  options : List String := []
  line : Nat := 1
  nextLine : Nat := 1
  /-- The command of the shell that runs, as messages are signed with it. -/
  signature : String := ""
  /-- The open file that commands are shown on before they run. -/
  shownOn : Option Nat := none
  /-- How commands in the background ended, by their numbers, the last one first; none for one that
  still waits. -/
  background : List (String × Option Ending) := []
  /-- The commands in the background that still wait, with the state that they start in. -/
  waiting : List (String × Command × State) := []
  mask : Nat := 18
  /-- What runs is a condition, so that its failure is none. -/
  inCondition : Bool := false
  loops : Nat := 0
  functionDepth : Nat := 0
  textDepth : Nat := 0
  directory : String := startDirectory
  streams : Streams := [(0, 0), (1, 1), (2, 1)]
  handles : List (Nat × OpenFile) :=
    [(0, { place := .text [], reads := true }), (1, { place := .screen, writes := true })]
  nextHandle : Nat := 2
  writeFailed : Bool := false
  status : Nat := 0
  /-- What has been written to the screen, the last part first. -/
  screen : List (List UInt8) := []
  collected : List (Nat × List (List UInt8)) := []
  files : List (String × List UInt8) := []
  /-- The exit code of the last command whose output was collected, in the current command. -/
  collectedCode : Nat := 0

inductive Leave where
  | exit (code : Nat)
  | failure
  | killed (signal : Nat)
  | leaveLoop (count : Nat)
  /-- Goes on with the next round of a loop, a number of loops further out. -/
  | nextRound (count : Nat)
  /-- Leaves a function, or a text of its own, with a code if it is given, or else the last one. -/
  | leaveFunction (code : Option Nat)
  deriving DecidableEq, Repr

abbrev ShellM := ExceptT Leave (StateM State)

def natural? (s : String) : Option Nat :=
  let digits := s.toList
  if digits.isEmpty || !digits.all Char.isDigit then none
  else some (digits.foldl (fun n c => n * 10 + (c.toNat - '0'.toNat)) 0)

def integer? (s : String) : Option Int :=
  match s.toList with
  | '-' :: digits => (natural? (String.ofList digits)).map fun n => -(n : Int)
  | _ => (natural? s).map fun n => (n : Int)

def isSpace (c : Char) : Bool :=
  c = ' ' || ('\t' ≤ c && c ≤ '\r')

/-- The integer of 64 bits that a word writes, with a sign or without and with gaps around it. -/
def wideInteger? (s : String) : Option Int :=
  let body := ((s.toList.dropWhile isSpace).reverse.dropWhile isSpace).reverse
  let n := match body with
    | '-' :: digits => (natural? (String.ofList digits)).map fun n => -(n : Int)
    | '+' :: digits => (natural? (String.ofList digits)).map fun n => (n : Int)
    | digits => (natural? (String.ofList digits)).map fun n => (n : Int)
  n.filter fun n => -0x8000000000000000 ≤ n && n < 0x8000000000000000

/-- The number that a word writes, if a small word of the machine has room for it. -/
def count? (s : String) : Option Nat :=
  ((wideInteger? s).filter fun n => 0 ≤ n && n < 0x80000000).map Int.toNat

namespace State

def hasOption (s : State) (name : String) : Bool :=
  s.options.contains name

def value? (s : State) (name : String) : Option String :=
  (s.bindings.lookup name).bind (·.value)

def isFixed (s : State) (name : String) : Bool :=
  (s.bindings.lookup name).any (·.fixed)

def separators (s : State) : String :=
  (s.value? "IFS").getD usualSeparators

def putVariable (s : State) (name : String) (v : Option Variable) : State :=
  { s with bindings :=
      (v.map (name, ·)).toList ++ s.bindings.filter (·.1 != name) }

/-- The state in which a variable has a value. Where programs are looked for has then to be found
out anew. -/
def setVariable (s : State) (name value : String) : State :=
  let v := (s.bindings.lookup name).getD {}
  let s := if name = "PATH" then { s with found := [] } else s
  s.putVariable name
    (some { v with value := some value, exported := v.exported || s.hasOption "allexport" })

/-- Whether the shell knows a variable also where it has no value. -/
def alwaysKnows (s : State) (name : String) : Bool :=
  ["IFS", "MAIL", "MAILPATH", "OPTIND", "PATH", "PS1", "PS2", "PS4"].contains name ||
    s.saved.any fun frame => frame.any fun
      | .variable other _ => other = name
      | .options _ => false

def forget (s : State) (name : String) : State :=
  s.putVariable name (if s.alwaysKnows name then
    (s.bindings.lookup name).map fun v => { v with value := none } else none)

def setAlias (s : State) (name text : String) : State :=
  { s with aliases :=
      if (s.aliases.lookup name).isSome then
        s.aliases.map fun a => if a.1 = name then (name, text) else a
      else s.aliases ++ [(name, text)] }

def placeOfText (text : String) : Nat × Option Nat :=
  (max 1 ((count? text).getD 1), none)

def restore (s : State) : List Saved → State
  | [] => s
  | .variable name before :: rest =>
    let s := s.putVariable name before
    let s := if name = "OPTIND" then
        { s with optionPlace := placeOfText ((before.bind (·.value)).getD "") }
      else s
    s.restore rest
  | .options names :: rest => { s with options := names }.restore rest

def save (s : State) (name : String) : State :=
  match s.saved with
  | [] => s
  | first :: rest =>
    let this := if name = "-" then .options s.options else .variable name (s.bindings.lookup name)
    { s with saved := (this :: first) :: rest }

def handle? (s : State) (number : Nat) : Option (Nat × OpenFile) :=
  (s.streams.lookup number).bind fun h => (s.handles.lookup h).map (h, ·)

def setHandle (s : State) (h : Nat) (f : OpenFile) : State :=
  { s with handles := (h, f) :: s.handles.filter (·.1 != h) }

def openFile (s : State) (f : OpenFile) : Nat × State :=
  (s.nextHandle, { s with
    handles := (s.nextHandle, f) :: s.handles, nextHandle := s.nextHandle + 1 })

/-- The state without the open files from a number on that nothing leads to. -/
def closeSince (s : State) (first : Nat) : State :=
  let leads (streams : Streams) (h : Nat) : Bool := streams.any (·.2 == h)
  { s with handles := s.handles.filter fun (h, _) =>
      h < first || leads s.streams h || s.waiting.any fun job => leads job.2.2.streams h }

def file? (s : State) (path : String) : Option (List UInt8) :=
  s.files.lookup path

def setFile (s : State) (path : String) (bytes : List UInt8) : State :=
  { s with files := (path, bytes) :: s.files.filter (·.1 != path) }

/-- Bytes with others written over them from a position on. -/
def overwritten (old : List UInt8) (position : Nat) (bytes : List UInt8) : List UInt8 :=
  old.take position ++ List.replicate (position - old.length) 0 ++ bytes ++
    old.drop (position + bytes.length)

/-- The state after bytes have been written to one of all open files; none if this cannot be
done. -/
def writeTo? (s : State) (h : Nat) (bytes : List UInt8) : Option State :=
  if bytes.isEmpty then some s
  else
    match s.handles.lookup h with
    | none => none
    | some f =>
      if !f.writes then none
      else
        match f.place with
        | .screen => some { s with screen := bytes :: s.screen }
        | .nowhere | .zeros false => some s
        | .zeros true | .text _ => none
        | .collected number =>
          let parts := (s.collected.lookup number).getD []
          some { s with collected :=
            (number, bytes :: parts) :: s.collected.filter (·.1 != number) }
        | .file path =>
          let old := (s.file? path).getD []
          let position := if f.appends then old.length else f.position
          some ((s.setFile path (overwritten old position bytes)).setHandle h
            { f with position := position + bytes.length })

def write? (s : State) (number : Nat) (bytes : List UInt8) : Option State :=
  if bytes.isEmpty then some s
  else (s.streams.lookup number).bind fun h => s.writeTo? h bytes

def readable? (s : State) (number : Nat) : Option (List UInt8) :=
  (s.handle? number).bind fun (_, f) =>
    if !f.reads then none
    else
      match f.place with
      | .text left => some left
      | .file path => some (((s.file? path).getD []).drop f.position)
      | _ => some []

def passBytes (s : State) (number count : Nat) : State :=
  match s.handle? number with
  | none => s
  | some (h, f) =>
    match f.place with
    | .text left => s.setHandle h { f with place := .text (left.drop count) }
    | _ => s.setHandle h { f with position := f.position + count }

def input (s : State) : List UInt8 :=
  (s.readable? 0).getD []

def endJob (s : State) (number : String) (ending : Ending) : State :=
  { s with
    background := s.background.map fun job => if job.1 = number then (number, some ending) else job
    waiting := s.waiting.filter (·.1 ≠ number) }

/-- The state of a shell that another one starts: it gets what other programs get to see. -/
def child (s : State) (name : String) (arguments : List String) : State where
  name
  arguments
  bindings :=
    let passed := (s.bindings.filter fun v => v.2.exported && v.2.value.isSome).map fun v =>
      (v.1, { v.2 with fixed := false })
    passed.filter (fun v => !(["IFS", "OPTIND", "PPID"].contains v.1)) ++
      startVariables.filter fun v => !v.2.exported && !(passed.lookup v.1).isSome ||
        ["IFS", "OPTIND", "PPID"].contains v.1
  traps := s.traps.filter (·.2.isEmpty)
  mask := s.mask
  directory := s.directory
  streams := s.streams
  handles := s.handles
  nextHandle := s.nextHandle
  screen := s.screen
  collected := s.collected
  files := s.files

/-- The state after the shell that was started from `before` has ended in the state `s`. -/
def back (s before : State) : State :=
  { before with
    sent := s.sent
    handles := s.handles, nextHandle := s.nextHandle
    screen := s.screen, collected := s.collected, files := s.files }

end State

/-- Writes a text to an open file; it is remembered if this cannot be done. -/
def say (number : Nat) (text : String) : ShellM Unit :=
  modify fun s => (s.write? number (toBytes text)).getD { s with writeFailed := true }

def warn (message : String) : ShellM Unit :=
  modify fun s => (s.write? 2 (toBytes message)).getD s

def complain (message : String) : ShellM Unit := do
  let s ← get
  warn (s.name ++ ": " ++ toString s.line ++ ": " ++ s.signature ++ message ++ "\n")

def failWith {α : Type} (message : String) : ShellM α := do
  complain message
  modify fun s => { s with status := 2 }
  throw .failure

def fixedMessage (name : String) : String :=
  name ++ ": is read only"

def demandCount (word : String) : ShellM Nat :=
  match count? word with
  | some n => return n
  | none => failWith ("Illegal number: " ++ word)

def assign (name value : String) : ShellM Unit := do
  if (← get).isFixed name then failWith (fixedMessage name)
  if name = "OPTIND" then
    let _ ← demandCount value
    modify fun s => { s with optionPlace := State.placeOfText value }
  modify (·.setVariable name value)

/-- Gives a variable a value if its name, which ends before an equals sign, is one. -/
def assignNamed (word value : String) : ShellM Unit := do
  let name := word.toList.takeWhile (· ≠ '=')
  if isName name then assign (String.ofList name) value
  else failWith (String.ofList name ++ ": bad variable name")

end TestBench.Shell
