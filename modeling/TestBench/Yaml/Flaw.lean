import TestBench.Fault

/-! Why a part of a text cannot be read. A text that cannot be read to its end may turn out well or
not as it goes on, so a part that the end cuts off is told apart from one that is wrong whatever
follows. -/
namespace TestBench.Yaml

inductive Flaw where
  | invalid
  | ended
  | fault (f : Fault)
  deriving DecidableEq, Repr

namespace Flaw

def before (rest : List Char) : Flaw :=
  if rest.isEmpty then .ended else .invalid

/-- The fault that a flaw is; `stop` is the fault that keeps the text from being read to its end. -/
def toFault (stop : Option Fault) : Flaw → Fault
  | .invalid => .invalidYaml
  | .ended => stop.getD .invalidYaml
  | .fault f => f

end Flaw

abbrev Scan := Except Flaw

end TestBench.Yaml
