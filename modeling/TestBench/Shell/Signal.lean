import TestBench.Shell.Option

/-! A signal ends the shell unless it is one of those that do nothing by themselves, or the shell
was told what to do about it. -/
namespace TestBench.Shell

def signalNames : List (String × Nat) :=
  [("EXIT", 0), ("HUP", 1), ("INT", 2), ("QUIT", 3), ("ILL", 4), ("TRAP", 5), ("ABRT", 6),
    ("BUS", 7), ("FPE", 8), ("KILL", 9), ("USR1", 10), ("SEGV", 11), ("USR2", 12), ("PIPE", 13),
    ("ALRM", 14), ("TERM", 15), ("16", 16), ("CHLD", 17), ("CONT", 18), ("STOP", 19), ("TSTP", 20),
    ("TTIN", 21), ("TTOU", 22), ("URG", 23), ("XCPU", 24), ("XFSZ", 25), ("VTALRM", 26),
    ("PROF", 27), ("WINCH", 28), ("IO", 29), ("PWR", 30), ("SYS", 31), ("32", 32), ("33", 33),
    ("RTMIN", 34)] ++
  ((List.range 15).map fun k => ("RTMIN+" ++ toString (k + 1), 35 + k)) ++
  ((List.range 14).map fun k => ("RTMAX-" ++ toString (14 - k), 50 + k)) ++ [("RTMAX", 64)]

def signalName (n : Nat) : String :=
  ((signalNames.find? (·.2 == n)).map (·.1)).getD (toString n)

def harmlessSignals : List Nat := [0, 17, 18, 23, 28]

def killSignal : Nat := 9

/-- The number of a signal that is given by its number or its name, the least one being `first`. -/
def signal? (first : Nat) (s : String) : Option Nat :=
  match natural? s with
  | some n => if n ≤ 64 then some n else none
  | none => ((signalNames.find? (·.1 == s.toUpper)).map (·.2)).filter (first ≤ ·)

/-- Takes note of a signal to the shell, or lets it end the shell. -/
def receive (signal : Nat) : ShellM Unit := do
  match (← get).traps.lookup signal with
  | some action =>
    if signal = killSignal then throw (.killed signal)
    else if !action.isEmpty then
      modify fun s => { s with pending := signal :: s.pending.filter (· ≠ signal) }
  | none => if harmlessSignals.contains signal then return else throw (.killed signal)

def receiveSent : ShellM Unit := do
  let s ← get
  if !s.isApart && !s.sent.isEmpty then
    set { s with sent := [] }
    s.sent.forM receive

/-- The number of a command in the background that a word stands for: the last one, the one before
it, or the one of a place; none stands for the last one. -/
def jobOf? (s : State) (word : Option String) : Except String String :=
  match (word.getD "%").toList with
  | ['%'] | ['%', '%'] | ['%', '+'] =>
    ((s.background.head?.map (.ok ·.1))).getD (.error "No current job")
  | ['%', '-'] => ((s.background[1]?).map (.ok ·.1)).getD (.error "No previous job")
  | '%' :: digits =>
    match (natural? (String.ofList digits)).bind fun n =>
        if n = 0 then none else s.background.reverse[n - 1]? with
    | some job => .ok job.1
    | none => .error ("No such job: " ++ word.getD "")
  | _ => .error ("No such job: " ++ word.getD "")

def findJob (word : String) : ShellM String := do
  match jobOf? (← get) (some word) with
  | .ok number => return number
  | .error message => failWith message

/-- Sends a signal to a process; the code says whether this was possible. -/
def sendSignal (signal : Nat) (target : String) : ShellM Nat := do
  let s ← get
  if target = processNumber then
    if s.isApart then modify fun s => { s with sent := s.sent ++ [signal] } else receive signal
    return 0
  else if (s.background.lookup target).isSome then
    if !harmlessSignals.contains signal then modify (·.endJob target (.killed signal))
    return 0
  else
    match target.toList with
    | '%' :: _ => let _ ← findJob target
    | '-' :: digits => let _ ← demandCount (String.ofList digits)
    | _ => let _ ← demandCount target
    complain "No such process\n"
    return 1

def listSignals (words : List String) : ShellM Nat := do
  match words with
  | [] =>
    say 1 ("0\n" ++ String.join ((List.range 64).map fun n => signalName (n + 1) ++ "\n"))
    return 0
  | word :: _ =>
    let n ← demandCount word
    let signal := if n ≤ 128 then n else n - 128
    if signal = 0 ∨ 64 < signal then
      failWith ("invalid signal number or exit status: " ++ word)
    else
      say 1 (signalName signal ++ "\n")
      return 0

def signalUsage : String :=
  "Usage: kill [-s sigspec | -signum | -sigspec] [pid | job]... or\nkill -l [exitstatus]"

def sendSignals (signal : Nat) (targets : List String) : ShellM Nat := do
  if targets.isEmpty then failWith signalUsage
  targets.foldlM (fun code target => return max code (← sendSignal signal target)) 0

def sendAs (words : List String) : ShellM Nat := do
  let byOptions : ShellM Nat :=
    match splitOptionsFrom (OptionLetters.ofText "ls:".toList) false none words with
    | .error e => failWith e.message
    | .ok (options, words) =>
      match options.lookup 'l', (options.filter (·.1 = 's')).getLast? with
      | some _, none => listSignals words
      | none, none => sendSignals 15 words
      | list, some (_, name) =>
        match signal? 1 name with
        | none => failWith ("invalid signal number or name: " ++ name)
        | some n =>
          if list.isNone then sendSignals n words
          else if words.isEmpty then listSignals words
          else failWith signalUsage
  match words with
  | [] => failWith signalUsage
  | word :: targets =>
    match word.toList with
    | '-' :: name =>
      match signal? 1 (String.ofList name) with
      | some n => sendSignals n targets
      | none => byOptions
    | _ => sendSignals 15 words

/-- A text between single quotes, in which the single quotes are put between double quotes. -/
def singleQuoted (text : String) : String :=
  let rec parts (fuel : Nat) (cs : List Char) : List Char :=
    match fuel with
    | 0 => []
    | fuel + 1 =>
      let plain := cs.takeWhile (· ≠ '\x27')
      let rest := cs.drop plain.length
      let quotes := rest.takeWhile (· = '\x27')
      let after := rest.drop quotes.length
      '\x27' :: plain ++ '\x27' :: (if quotes.isEmpty then []
        else '\x22' :: quotes ++ '\x22' :: (if after.isEmpty then [] else parts fuel after))
  String.ofList (parts (text.length + 1) text.toList)

def listTraps : ShellM Nat := do
  let traps := (← get).traps
  (List.range 65).forM fun n =>
    match traps.lookup n with
    | some action => say 1 ("trap -- " ++ singleQuoted action ++ " " ++ signalName n ++ "\n")
    | none => pure ()
  return 0

def trapAll (action : Option String) : List String → ShellM Nat
  | [] => return 0
  | name :: names => do
    match signal? 0 name with
    | none =>
      warn ("trap: " ++ name ++ ": bad trap\n")
      return 1
    | some n =>
      modify fun s => { s with
        traps := (action.map fun a => (n, a)).toList ++ s.traps.filter (·.1 != n) }
      trapAll action names

def setTraps (words : List String) : ShellM Nat :=
  match words with
  | [] => listTraps
  | [_] => trapAll none words
  | "-" :: names => trapAll none names
  | action :: names =>
    if ((natural? action).filter (· ≤ 64)).isSome then trapAll none words
    else trapAll (some action) names

end TestBench.Shell
