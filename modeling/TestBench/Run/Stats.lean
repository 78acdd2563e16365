import TestBench.Fault
import TestBench.Test

/-! Each test is recorded once. The counters count the recorded outcomes; tests that could not be
run are kept apart and not counted. -/
namespace TestBench

structure Tally where
  pass : Nat := 0
  fail : Nat := 0
  xpass : Nat := 0
  xfail : Nat := 0
  deriving DecidableEq, Repr, Inhabited

namespace Tally

def get (t : Tally) : Outcome → Nat
  | .pass => t.pass
  | .fail => t.fail
  | .xpass => t.xpass
  | .xfail => t.xfail

def add (t : Tally) : Outcome → Tally
  | .pass => { t with pass := t.pass + 1 }
  | .fail => { t with fail := t.fail + 1 }
  | .xpass => { t with xpass := t.xpass + 1 }
  | .xfail => { t with xfail := t.xfail + 1 }

end Tally

structure Stats where
  tally : Tally := {}
  count : Nat := 0
  results : List Test := []
  failures : List Test := []
  successes : List Test := []
  /-- The tests that could not be run. -/
  errors : List Test := []
  recorded : List Int := []
  deriving DecidableEq, Repr, Inhabited

namespace Test

def withResult (t : Test) (o : Outcome) : Test :=
  { t with result := some o }

/-- Tests in the order of their ids; tests with one id stay in order. -/
def sortById (tests : List Test) : List Test :=
  tests.mergeSort fun a b => decide (a.id ≤ b.id)

end Test

namespace Stats

def record (s : Stats) (t : Test) (o : Outcome) : Except Fault Stats :=
  if s.recorded.contains t.id then .error (.recordedTwice t.id)
  else
    let done := t.withResult o
    .ok { s with
      tally := s.tally.add o
      count := s.count + 1
      results := s.results ++ [done]
      failures := if o.isFailure then s.failures ++ [done] else s.failures
      successes := if o.isFailure then s.successes else s.successes ++ [done]
      recorded := s.recorded ++ [t.id] }

def addError (s : Stats) (t : Test) : Stats :=
  { s with errors := s.errors ++ [t] }

def counter (s : Stats) (o : Outcome) : Nat :=
  s.tally.get o

def sortById (s : Stats) : Stats :=
  { s with
    results := Test.sortById s.results
    failures := Test.sortById s.failures
    successes := Test.sortById s.successes
    errors := Test.sortById s.errors }

end Stats

end TestBench
