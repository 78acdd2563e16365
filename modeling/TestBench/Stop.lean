import TestBench.Failure
import TestBench.Value.Shown

/-! What ends an activity early. -/
namespace TestBench

inductive Stop where
  | failure (f : Failure)
  | fault (f : Fault)
  /-- A script asked to end the program, or raised something else that nothing holds back. -/
  | escape (kind : String) (value : Value)
  deriving Inhabited

def exitKind : String := "SystemExit"

end TestBench
