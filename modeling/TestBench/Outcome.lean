/-! What became of a test: it succeeded or failed, and this was expected or not. -/
namespace TestBench

/-- `pass` and `fail` are the outcomes of a test that was expected to pass, `xpass` and `xfail` of
one that was expected to fail. -/
inductive Outcome where
  | pass
  | fail
  | xpass
  | xfail
  deriving DecidableEq, Repr, Inhabited

namespace Outcome

def all : List Outcome := [.pass, .fail, .xpass, .xfail]

def name : Outcome → String
  | .pass => "PASS"
  | .fail => "FAIL"
  | .xpass => "XPASS"
  | .xfail => "XFAIL"

def status : Outcome → String
  | .pass => "pass"
  | .fail => "fail"
  | .xpass => "xpass"
  | .xfail => "xfail"

def ofName? (word : String) : Option Outcome :=
  all.find? (·.name == word)

def isFailure : Outcome → Bool
  | .fail | .xfail => true
  | .pass | .xpass => false

def isExpectation : Outcome → Bool
  | .pass | .xfail => true
  | .fail | .xpass => false

end Outcome

end TestBench
