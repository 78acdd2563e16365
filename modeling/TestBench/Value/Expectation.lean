import TestBench.Stop
import TestBench.Text.Blank

/-! Values as expectations. -/
namespace TestBench

def Outcome.checkExpectation (o : Outcome) : Except Stop Outcome :=
  if o.isExpectation then .ok o else .error (.failure (.invalidExpectation o.name "" {}))

/-- The outcome that a value declares as expected: an outcome, or the word for one with blanks
around it allowed. A value without a text is no expectation that could be refused by its text. -/
def Value.toExpectation (v : Value) : Except Stop Outcome :=
  match v with
  | .outcome o => o.checkExpectation
  | v =>
    match v.toText with
    | .error f => .error (.fault f)
    | .ok word =>
      match Outcome.ofName? (String.ofList (Text.trim word.toList)) with
      | some o => o.checkExpectation
      | none => .error (.failure (.invalidExpectation word "" {}))

end TestBench
