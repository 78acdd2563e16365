import TestBench.Number.Binary64
import TestBench.Run.Stats
import TestBench.Run.Trial
import TestBench.Stop

/-! Tests are run, recorded and reported one by one until one of them cannot be judged. In a run
with several workers the tests are taken in the order in which they complete, and the statistics are
put in the order of ids at the end. -/
namespace TestBench

/-- What answers a call, and how its own state changes with it. A call that cannot be made has no
reply. -/
abbrev Executor (σ : Type) := String → StateM σ (Except Fault Reply)

/-- What is reported when a test has been recorded: its outcome, and how much of the run is done, in
percent. -/
structure Notice where
  test : Test
  outcome : Option Outcome
  progress : Binary64
  deriving DecidableEq, Repr

inductive RunEvent where
  | trial (t : Trial)
  | notice (n : Notice)

/-- The part of a run that is done when `k` of `total` tests are, in percent. -/
def progress (k total : Nat) : Binary64 :=
  ((Binary64.ofInt k).div (Binary64.ofInt total)).mul (Binary64.ofInt 100)

structure RunResult where
  stats : Stats
  /-- The tests of the run in the order in which they were given or completed, those that were
  recorded with their outcomes. -/
  tests : List Test
  events : List RunEvent
  stop : Option Stop

namespace Stats

def enter (s : Stats) (t : Test) : Option Outcome → Except Fault Stats
  | none => .ok (s.addError t)
  | some o => s.record t o

end Stats

namespace Test

def entered (t : Test) : Option Outcome → Test
  | none => t
  | some o => t.withResult o

end Test

namespace RunResult

/-- Runs tests in order. `k` tests of `total` were done before, with the statistics `s`. -/
def runFrom {σ : Type} (settings : Settings) (extraArgs : List String) (exec : Executor σ)
    (total : Nat) : Nat → Stats → List Test → StateM σ RunResult
  | _, s, [] => return ⟨s, [], [], none⟩
  | k, s, t :: rest => do
    let answer ← exec (settings.tool.commandLine t extraArgs)
    let trial := Trial.ofAnswer settings extraArgs t answer
    match trial.verdict with
    | .error e => return ⟨s, t :: rest, [.trial trial], some e⟩
    | .ok outcome =>
      match s.enter t outcome with
      | .error f => return ⟨s, t :: rest, [.trial trial], some (.fault f)⟩
      | .ok s =>
        let done := t.entered outcome
        let r ← runFrom settings extraArgs exec total (k + 1) s rest
        return { r with
          tests := done :: r.tests
          events := .trial trial :: .notice ⟨done, outcome, progress (k + 1) total⟩ :: r.events }

def sequential {σ : Type} (settings : Settings) (extraArgs : List String) (exec : Executor σ)
    (tests : List Test) : StateM σ RunResult :=
  runFrom settings extraArgs exec tests.length 0 {} tests

/-- Runs tests with several workers; `completed` are the tests in the order in which they complete.
There is at least one worker. A pool for fewer is refused, which has no counterpart here: `run` asks
for two or more. -/
def parallel {σ : Type} (settings : Settings) (extraArgs : List String) (exec : Executor σ)
    (completed : List Test) : StateM σ RunResult := do
  let r ← runFrom settings extraArgs exec completed.length 0 {} completed
  return { r with stats := r.stats.sortById }

def isParallel (workers : Int) (tests : List Test) : Bool :=
  1 < workers && 1 < tests.length

/-- Runs tests with the given number of workers, or that of the settings. Where several complete,
they do so in the order that `complete` puts them in. -/
def run {σ : Type} (settings : Settings) (extraArgs : List String) (exec : Executor σ)
    (complete : List Test → List Test) (workers : Option Int) (tests : List Test) :
    StateM σ RunResult :=
  if isParallel (workers.getD settings.maxWorkers) tests then
    parallel settings extraArgs exec (complete tests)
  else sequential settings extraArgs exec tests

def commands (r : RunResult) : List String :=
  r.events.filterMap fun
    | .trial t => some t.command
    | .notice _ => none

def notices (r : RunResult) : List Notice :=
  r.events.filterMap fun
    | .trial _ => none
    | .notice n => some n

def log (r : RunResult) : String :=
  String.join (r.events.map fun
    | .trial t => t.log
    | .notice _ => "")

end RunResult

end TestBench
