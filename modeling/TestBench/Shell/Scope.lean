import TestBench.Shell.Option
import TestBench.Shell.Redirect

/-! Commands that run in a state of their own: as a condition, as a loop, as the body of a function,
as a shell apart, or so that their output is collected. What they change is taken back when they
end, also if they end early. -/
namespace TestBench.Shell

/-- What an early end in a round of a loop means to the loop: the code of the loop, and whether
there is another round; else it goes on further out. -/
def afterRound (status : Nat) (e : Leave) : ShellM (Nat × Bool) := do
  modify fun s => { s with status }
  match e with
  | .leaveLoop 0 => return (status, false)
  | .nextRound 0 => return (status, true)
  | .leaveLoop (n + 1) => throw (.leaveLoop n)
  | .nextRound (n + 1) => throw (.nextRound n)
  | e => throw e

/-- Runs a command in a state that `enter` makes; `leave` takes what it changed back from the state
before, also if the command ends early. -/
def within {α : Type} (enter : State → State) (leave : State → State → State)
    (body : ShellM α) : ShellM α := do
  let before ← get
  modify enter
  let a ← tryCatch body fun e => do
    modify (leave before)
    throw e
  modify (leave before)
  return a

def putBack (numbers : List Nat) (before streams : Streams) : Streams :=
  before.filter (numbers.contains ·.1) ++ streams.filter (!numbers.contains ·.1)

/-- Runs a command after which some of the open files are put back to what they were. With `lasts`
this is done only if the command ends early. -/
def keepingStreams (numbers : List Nat) (lasts : Bool) (body : ShellM Nat) : ShellM Nat := do
  let before ← get
  let restore (s : State) : State :=
    { s with streams := putBack numbers before.streams s.streams }.closeSince before.nextHandle
  let code ← tryCatch body fun e => do
    modify restore
    throw e
  if !lasts then modify restore
  return code

def withSignature (signature : String) (body : ShellM Nat) : ShellM Nat :=
  within (fun s => { s with signature })
    (fun before s => { s with signature := before.signature }) body

/-- Runs a command as one whose failure is none, or is one. -/
def asCondition (isCondition : Bool) (body : ShellM Nat) : ShellM Nat :=
  within (fun s => { s with inCondition := isCondition })
    (fun before s => { s with inCondition := before.inCondition }) body

def asLoop (body : ShellM Nat) : ShellM Nat :=
  within (fun s => { s with loops := s.loops + 1 })
    (fun before s => { s with loops := before.loops }) body

def savingVariables (body : ShellM Nat) : ShellM Nat :=
  within (fun s => { s with saved := [] :: s.saved })
    (fun before s => { s.restore (s.saved.headD []) with saved := before.saved }) body

/-- Runs a command that can be left before its end; the code is then the one it is left with. -/
def catchingReturn (body : ShellM Nat) : ShellM Nat :=
  tryCatch body fun
    | .leaveFunction code => return code.getD (← get).status
    | e => throw e

def functionLimit : Nat := 1000

def asFunction (arguments : List String) (body : ShellM Nat) : ShellM Nat := do
  if functionLimit ≤ (← get).functionDepth then
    failWith ("Maximum function recursion depth (" ++ toString functionLimit ++ ") reached")
  within
    (fun s => { s with
      arguments, loops := 0, optionPlace := (1, none), functionDepth := s.functionDepth + 1 })
    (fun before s =>
      { s with
        arguments := before.arguments, loops := before.loops, optionPlace := before.optionPlace
        functionDepth := before.functionDepth })
    (catchingReturn body)

def textLimit : Nat := 8500

/-- Runs the commands of a text. A shell whose texts run too deep inside one another has no memory
left for them, which ends it. -/
def asText (body : ShellM Nat) : ShellM Nat := do
  if textLimit ≤ (← get).textDepth then throw (.killed 11)
  within (fun s => { s with textDepth := s.textDepth + 1 })
    (fun before s => { s with nextLine := before.nextLine, textDepth := before.textDepth }) body

def codeOfLeave : Leave → ShellM Nat
  | .exit code => pure code
  | .failure => pure 2
  | .killed signal => throw (.killed signal)
  | .leaveFunction code => return code.getD (← get).status
  | .leaveLoop _ | .nextRound _ => return (← get).status

/-- The state of a part of the shell that runs apart: it does nothing about signals, and does not
wait for commands of the shell. -/
def State.apart (s : State) : State :=
  { s with
    traps := s.traps.filter (·.2.isEmpty), isApart := true, pending := [], waiting := []
    nextLine := 1
    background := s.background.map fun job => (job.1, none) }

def signalText (signal : Nat) : String :=
  match signal with
  | 1 => "Hangup"
  | 3 => "Quit"
  | 4 => "Illegal instruction"
  | 5 => "Trace/breakpoint trap"
  | 6 => "Aborted"
  | 7 => "Bus error"
  | 8 => "Floating point exception"
  | 9 => "Killed"
  | 10 => "User defined signal 1"
  | 11 => "Segmentation fault"
  | 12 => "User defined signal 2"
  | 14 => "Alarm clock"
  | 15 => "Terminated"
  | _ => "Signal " ++ toString signal

def tellSignal (signal : Nat) : ShellM Unit :=
  if signal = 2 ∨ signal = 13 then pure () else warn (signalText signal ++ "\n")

/-- Runs a shell of its own that `enter` makes of this one; `leave` takes back what has changed. It
can be ended by a signal alone. -/
def asProcess (enter : State → State) (leave : State → State → State) (body : ShellM Nat) :
    ShellM Nat := do
  let before ← get
  modify enter
  let ending ← tryCatch (Ending.exited <$> body) fun
    | .killed signal => pure (.killed signal)
    | e => .exited <$> codeOfLeave e
  modify fun s => (leave before s).closeSince before.nextHandle
  match ending with
  | .exited code => return code % 256
  | .killed signal =>
    tellSignal signal
    return 128 + signal

def asOtherShell (call : ShellCall) (body : ShellM Nat) : ShellM Nat :=
  asProcess (·.ofCall call) (fun before s => { s.back before with sent := before.sent }) body

def asPart (body : ShellM Nat) : ShellM Nat :=
  asProcess State.apart (fun before s => s.back before) body

/-- What a command that runs apart writes; its code is remembered. -/
def collect (body : ShellM Nat) : ShellM (List UInt8) := do
  let before ← get
  let number := before.nextHandle
  let (h, s) := before.openFile { place := .collected number, writes := true }
  set { s with streams := (1, h) :: s.streams.filter (·.1 != 1) }
  let code ← body
  let s ← get
  let parts := (s.collected.lookup number).getD []
  set ({ s with
    streams := before.streams, collectedCode := code
    collected := s.collected.filter (·.1 != number) }.closeSince number)
  return parts.reverse.flatten

end TestBench.Shell
