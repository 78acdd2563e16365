import TestBench.Run.Sequence

/-! A run with several workers, move by move. Tests wait in the order in which they were given. A
free worker takes the next one and calls the tool; when the call is over, the block of the test is
written and the worker is free again. Trials that are over are recorded one at a time, in any order.
The first one that cannot be recorded stops the run: no other is recorded after it, and the tests
that still wait are given up, some of them perhaps after workers have taken others. -/
namespace TestBench

/-- The state of a run with several workers. They are as many as `Pool.move` is given, at least one;
a pool for fewer is refused when it is made, and has no state. -/
structure Pool (σ : Type) where
  waiting : List Test
  running : List Trial := []
  /-- The trials whose blocks have been written and that have not been recorded. -/
  ended : List Trial := []
  result : RunResult := ⟨{}, [], [], none⟩
  world : σ

/-- What can happen next. Places are counted from the front of a list. -/
inductive Pool.Move where
  | start
  | finish (place : Nat)
  | collect (place : Nat)
  /-- A test that waits is given up. -/
  | abandon (place : Nat)
  deriving DecidableEq, Repr

namespace RunResult

def write (r : RunResult) (t : Trial) : RunResult :=
  { r with events := r.events ++ [.trial t] }

/-- The run after a trial has been recorded, or has stopped it. -/
def collect (r : RunResult) (total : Nat) (t : Trial) : RunResult :=
  match t.verdict with
  | .error e => { r with stop := some e }
  | .ok outcome =>
    match r.stats.enter t.test outcome with
    | .error f => { r with stop := some (.fault f) }
    | .ok stats =>
      let done := t.test.entered outcome
      { r with
        stats
        tests := r.tests ++ [done]
        events := r.events ++ [.notice ⟨done, outcome, progress (r.tests.length + 1) total⟩] }

end RunResult

namespace Pool

def move {σ : Type} (settings : Settings) (extraArgs : List String) (exec : Executor σ)
    (workers total : Nat) (p : Pool σ) : Move → Option (Pool σ)
  | .start =>
    match p.waiting with
    | [] => none
    | t :: rest =>
      if p.running.length < workers then
        let called := (exec (settings.tool.commandLine t extraArgs)).run p.world
        some { p with
          waiting := rest
          running := p.running ++ [Trial.ofAnswer settings extraArgs t called.1]
          world := called.2 }
      else none
  | .finish place =>
    match p.running[place]? with
    | none => none
    | some t =>
      some { p with
        running := p.running.eraseIdx place
        ended := p.ended ++ [t]
        result := p.result.write t }
  | .collect place =>
    match p.result.stop, p.ended[place]? with
    | none, some t =>
      some { p with ended := p.ended.eraseIdx place, result := p.result.collect total t }
    | _, _ => none
  | .abandon place =>
    match p.result.stop, p.waiting[place]? with
    | some _, some _ => some { p with waiting := p.waiting.eraseIdx place }
    | _, _ => none

def run {σ : Type} (settings : Settings) (extraArgs : List String) (exec : Executor σ)
    (workers total : Nat) : List Move → Pool σ → Option (Pool σ)
  | [], p => some p
  | m :: moves, p =>
    match p.move settings extraArgs exec workers total m with
    | none => none
    | some p => run settings extraArgs exec workers total moves p

/-- Whether the run has ended. What is over when a run has stopped is not recorded any more. -/
def isDone {σ : Type} (p : Pool σ) : Bool :=
  p.waiting.isEmpty && p.running.isEmpty && (p.ended.isEmpty || p.result.stop.isSome)

def outcome {σ : Type} (p : Pool σ) : RunResult :=
  { p.result with stats := p.result.stats.sortById }

end Pool

end TestBench
