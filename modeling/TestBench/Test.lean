import TestBench.Outcome

/-! One test: what the tool is run on, with which arguments, and what is expected of it. -/
namespace TestBench

structure Test where
  id : Int
  path : String
  args : String
  expected : Outcome
  comment : String := ""
  result : Option Outcome := none
  deriving DecidableEq, Repr, Inhabited

namespace Test

def line (t : Test) : String :=
  t.path ++ "|" ++ t.args ++ "|" ++ t.expected.name ++ "|" ++ t.comment

def listing (t : Test) : String :=
  toString t.id ++ "|" ++ t.line

/-- The word that ends a result line: the outcome, or that there is none. -/
def resultName (t : Test) : String :=
  (t.result.map Outcome.name).getD "ERROR"

def resultLine (t : Test) : String :=
  toString t.id ++ "|" ++ t.path ++ "|" ++ t.args ++ "|" ++ t.comment ++ " --- " ++ t.resultName

end Test

end TestBench
