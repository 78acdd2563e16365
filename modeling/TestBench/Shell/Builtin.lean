import TestBench.Shell.Input
import TestBench.Shell.Meaning
import TestBench.Shell.Move
import TestBench.Shell.Scope

/-! The commands that the shell has itself and that run no other command: what they do to its
variables, options and arguments, and what they say. Main definition: `runOwn?`. -/
namespace TestBench.Shell

/-- Leaves loops, or ends a round of one; nothing happens where there is no loop. -/
def leaveLoops (leave : Nat → Leave) (words : List String) : ShellM Nat := do
  let wanted ← (words.head?.mapM demandCount : ShellM (Option Nat))
  if wanted = some 0 then failWith ("Illegal number: " ++ words.headD "")
  let count := min (wanted.getD 1) (← get).loops
  modify fun s => { s with status := 0 }
  if 0 < count then throw (leave (count - 1)) else return 0

def variableLines (front : String) (vs : List (String × Variable)) : String :=
  let sorted := vs.mergeSort fun a b => !(b.1 < a.1)
  String.join (sorted.map fun (name, v) =>
    front ++ name ++ ((v.value.map fun value => "=" ++ singleQuoted value).getD "") ++ "\n")

/-- Makes variables known to programs, or keeps their values, as words say that also set them; lists
those that are without words. -/
def markVariables (name : String) (isMarked : Variable → Bool) (mark : Variable → Variable)
    (list : Bool) (words : List String) : ShellM Nat := do
  if list || words.isEmpty then
    say 1 (variableLines (name ++ " ") ((← get).bindings.filter fun v => isMarked v.2))
  else
    words.forM fun word => do
      let plain := String.ofList (word.toList.takeWhile (· ≠ '='))
      let isKnown := ((← get).bindings.lookup word).isSome
      if plain ≠ word then
        assignNamed word (String.ofList (word.toList.drop (plain.length + 1)))
      else if !isKnown then
        if !isName word.toList then failWith (word ++ ": bad variable name")
      modify fun s => s.putVariable plain (some (mark ((s.bindings.lookup plain).getD {})))
  return 0

/-- Sets variables, or options for a minus sign, which are what they were before when the function
ends. -/
def takeVariables (words : List String) : ShellM Nat := do
  if (← get).saved.isEmpty then failWith "not in a function"
  words.forM fun word => do
    let name := String.ofList (word.toList.takeWhile (· ≠ '='))
    let isKnown := word = "-" || ((← get).bindings.lookup name).isSome
    if name = word && !isKnown && !isName word.toList then
      failWith (word ++ ": bad variable name")
    modify (·.save name)
    if name ≠ word then assign name (String.ofList (word.toList.drop (name.length + 1)))
    else if !isKnown then modify (·.putVariable name (some {}))
  return 0

def forgetAll (functions : Bool) (names : List String) : ShellM Nat := do
  names.forM fun name => do
    if functions then
      modify fun s => { s with functions := s.functions.filter (·.1 != name) }
    else
      let plain := name.toList.takeWhile (· ≠ '=')
      if !isName plain then failWith (String.ofList plain ++ ": bad variable name")
      if (← get).isFixed (String.ofList plain) then failWith (fixedMessage (String.ofList plain))
      modify (·.forget (String.ofList plain))
  return 0

/-- Turns off the control of jobs, which needs a terminal. A part that runs apart does not try to
have it. -/
def dropControl : ShellM Unit := do
  let s ← get
  if s.hasOption "monitor" && !s.isApart then
    complain noControl
    modify (·.withOption "monitor" false)

/-- Changes options and arguments of the shell, or lists its variables. Without other words the
arguments stay, unless two minus signs end the options. -/
def setOptions (words : List String) : ShellM Nat := do
  if words.isEmpty then
    say 1 (variableLines "" ((← get).bindings.filter fun v => v.2.value.isSome))
    return 0
  let given := optionWords false {} words.length words
  modify (·.withOptions given.changes)
  given.shown.forM fun asTable => do say 1 (optionTable (← get).options asTable)
  if let some message := given.fault then failWith message
  dropControl
  if !given.left.isEmpty || given.ended then
    modify fun s => { s with arguments := given.left, optionPlace := (1, none) }
  return 0

def shiftArguments (words : List String) : ShellM Nat := do
  let n := ((← (words.head?.mapM demandCount : ShellM (Option Nat)))).getD 1
  if (← get).arguments.length < n then failWith "can't shift that many"
  modify fun s => { s with arguments := s.arguments.drop n, optionPlace := (1, none) }
  return 0

def exitShell (words : List String) : ShellM Nat := do
  let code ← (words.head?.mapM demandCount : ShellM (Option Nat))
  let s ← get
  throw (.exit (code.getD (s.codeBefore.getD s.status)))

def leaveFunction (words : List String) : ShellM Nat := do
  let code ← (words.head?.mapM demandCount : ShellM (Option Nat))
  modify fun s => { s with status := code.getD s.status }
  throw (.leaveFunction code)

/-- Waits for commands in the background: the code is that of the last one that there is. -/
def waitFor (words : List String) : ShellM Nat := do
  if words.isEmpty then return 0
  words.foldlM (fun code word => do
    let number ← if word.startsWith "%" then findJob word
      else do
        let _ ← demandCount word
        pure word
    match ((← get).background.lookup number).bind id with
    | none => return code
    | some (.killed signal) =>
      tellSignal signal
      return (Ending.killed signal).code
    | some ending => return ending.code) 127

/-- Brings a job to the front or the back, which works for none. -/
def moveJob (words : List String) : ShellM Nat := do
  match jobOf? (← get) words.head? with
  | .error message => failWith message
  | .ok _ => failWith ("job " ++ words.headD "(null)" ++ " not created under job control")

def maskLetters (mask : Nat) : String :=
  let rights (n : Nat) : String :=
    (if n &&& 4 = 0 then "r" else "") ++ (if n &&& 2 = 0 then "w" else "") ++
      if n &&& 1 = 0 then "x" else ""
  "u=" ++ rights (mask / 64) ++ ",g=" ++ rights (mask / 8) ++ ",o=" ++ rights mask

/-- The rights after a change that letters describe, `before` being the rights before all of it; at
most `fuel` changes are made. -/
def changedRights? (before : Nat) : Nat → Nat → List Char → Option Nat
  | 0, _, _ => none
  | fuel + 1, rights, cs =>
    let who := cs.takeWhile ['a', 'u', 'g', 'o'].contains
    let places := (if who.isEmpty || who.contains 'a' || who.contains 'u' then 64 else 0) +
      (if who.isEmpty || who.contains 'a' || who.contains 'g' then 8 else 0) +
      (if who.isEmpty || who.contains 'a' || who.contains 'o' then 1 else 0)
    match cs.drop who.length with
    | [] => some rights
    | sign :: rest =>
      if !(['=', '+', '-'].contains sign) then none
      else
        let letters := rest.takeWhile ['r', 'w', 'x', 'u', 'g', 'o', 'X', 's'].contains
        let value := letters.foldl (fun n c => n ||| match c with
          | 'r' => 4
          | 'w' => 2
          | 'x' => 1
          | 'u' => before / 64 % 8
          | 'g' => before / 8 % 8
          | 'o' => before % 8
          | 'X' => if before &&& 73 = 0 then 0 else 1
          | _ => 0) 0
        let bits := value * places
        let rights := match sign with
          | '+' => rights ||| bits
          | '-' => rights &&& (511 ^^^ bits)
          | _ => bits ||| (rights &&& (511 ^^^ (7 * places)))
        match rest.drop letters.length with
        | [] => some rights
        | ',' :: more => changedRights? before fuel rights more
        | more => changedRights? before fuel rights more

def setMask (asText : Bool) (words : List String) : ShellM Nat := do
  let mask := (← get).mask
  match words with
  | [] =>
    let digit (n : Nat) : Char := Char.ofNat ('0'.toNat + n % 8)
    say 1 ((if asText then maskLetters mask
      else String.ofList ['0', digit (mask / 64), digit (mask / 8), digit mask]) ++ "\n")
  | word :: _ =>
    let cs := word.toList
    if cs.head?.any Char.isDigit then
      if !cs.all isOctal then failWith ("Illegal number: " ++ word)
      let n := cs.foldl (fun n c => n * 8 + (c.toNat - '0'.toNat)) 0
      modify fun s => { s with mask := n % 512 }
    else
      match changedRights? (511 ^^^ mask) (cs.length + 1) (511 ^^^ mask) cs with
      | some rights => modify fun s => { s with mask := 511 ^^^ rights }
      | none => failWith ("Illegal mode: " ++ word)
  return 0

/-- Shows or sets a limit of the system; there is none, but for images of programs that fail. -/
def setLimit (options : List Char) (words : List String) : ShellM Nat := do
  match words with
  | [] => say 1 (if options.contains 'c' then "0\n" else "unlimited\n")
  | [word] =>
    if word ≠ "unlimited" && !word.toList.all Char.isDigit then failWith "bad number"
  | _ => failWith "too many arguments"
  return 0

/-- Ends the shell because of the failure of a command, if that is wanted and nothing looks at the
failure. -/
def failed (code : Nat) (isOwnFailure : Bool) : ShellM Unit := do
  let s ← get
  if code ≠ 0 && isOwnFailure && s.hasOption "errexit" && !s.inCondition then throw (.exit code)

def perform (e : Effect) : ShellM Nat := do
  modify fun s => s.passBytes 0 (s.input.length - e.input.length)
  e.said.forM fun
    | .bytes bs => say 1 (ofBytes bs)
    | .complaint text => complain text
    | .message text => warn (text ++ "\n")
  return e.code

def runOwn? (name : String) (options : List (Char × String)) (words : List String) :
    ShellM (Option Nat) := do
  let has (letter : Char) : Bool := (options.lookup letter).isSome
  let physical := (options.filter fun o => o.1 = 'L' ∨ o.1 = 'P').getLast?.map (·.1) = some 'P'
  match name with
  | "exit" => exitShell words
  | "return" => leaveFunction words
  | "break" => leaveLoops .leaveLoop words
  | "continue" => leaveLoops .nextRound words
  | "trap" => setTraps words
  | "read" => readLine (has 'r') words
  | "getopts" => takeOption words
  | "export" =>
    markVariables name (·.exported) (fun v => { v with exported := true }) (has 'p') words
  | "readonly" => markVariables name (·.fixed) (fun v => { v with fixed := true }) (has 'p') words
  | "local" => takeVariables words
  | "unset" => forgetAll ((options.getLast?.map (·.1)) = some 'f') words
  | "set" => setOptions words
  | "shift" => shiftArguments words
  | "cd" | "chdir" => changeDirectory physical words
  | "pwd" => showDirectory physical
  | "fg" | "bg" => moveJob words
  | "jobs" =>
    if let some word := words.head? then let _ ← findJob word
    return some 0
  | "alias" => setAliases words
  | "unalias" => forgetAliases (has 'a') words
  | "type" => describeAll false false words
  | "hash" => lookUpAll (has 'r') words
  | "kill" => sendAs words
  | "umask" => setMask (has 'S') words
  | "ulimit" => setLimit (options.map (·.1)) words
  | "times" =>
    say 1 "0m0.000000s 0m0.000000s\n0m0.000000s 0m0.000000s\n"
    return some 0
  | _ =>
    match ownEffect? (← get) name words with
    | some e => perform e
    | none => return none

def writingFault (s : State) (name : String) : String :=
  let reason := if (s.handle? 1).any fun h => h.2.place == .zeros true then
    "No space left on device" else "Bad file descriptor"
  match (programOfPath? name).getD name with
  | "sort" => "fflush failed: 'standard output': " ++ reason ++ "\nsort: write error"
  | "cat" =>
    (if (s.handle? 1).isNone then "standard output: " else "write error: ") ++ reason
  | "wc" => if (s.handle? 1).isNone then "write error: " ++ reason else "write error"
  | _ => "write error: " ++ reason

def performProgram (name : String) (e : Effect) : ShellM Nat := do
  let isCat := (programOfPath? name).getD name = "cat"
  if isCat && ((← get).streams.lookup 1).isNone then
    warn (name ++ ": " ++ writingFault (← get) name ++ "\n")
    return 1
  modify fun s => { s.passBytes 0 (s.input.length - e.input.length) with
    files := s.files.filter fun f => !e.removed.contains f.1 }
  e.said.forM fun
    | .bytes bs => say 1 (ofBytes bs)
    | .complaint text => warn (name ++ ": " ++ text ++ "\n")
    | .message text => warn (text ++ "\n")
  let s ← get
  if s.writeFailed then
    set { s with writeFailed := false }
    warn (name ++ ": " ++ writingFault s name ++ "\n")
    return max e.code (if ["ls", "sort"].contains ((programOfPath? name).getD name) then 2 else 1)
  else return e.code

end TestBench.Shell
