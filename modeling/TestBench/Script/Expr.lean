import TestBench.Bindings
import TestBench.Number.Binary64
import TestBench.Script.Basic

/-! Evaluation of expressions. -/
namespace TestBench

namespace Value

def toInt? : Value → Option Int
  | .bool b => some (if b then 1 else 0)
  | .int n => some n
  | _ => none

/-- The number that a value is in a sum with a floating-point number. An integer that is nearest to
none of them has no such number. -/
def toBinary64? : Value → Option (Except Fault Binary64)
  | .float x => some (.ok x)
  | v => v.toInt?.map fun n =>
    match Binary64.ofInt n with
    | .infinite _ => .error .beyondFloat
    | x => .ok x

/-- The sum of two values: texts and lists are put one behind the other. -/
def add (v w : Value) : Except Fault Value :=
  match v, w with
  | .text s, .text t => .ok (.text (s ++ t))
  | .list xs, .list ys => .ok (.list (xs ++ ys))
  | v, w =>
    match v.toInt?, w.toInt? with
    | some m, some n => .ok (.int (m + n))
    | _, _ =>
      match v.toBinary64?, w.toBinary64? with
      | some x, some y => do return .float ((← x).add (← y))
      | _, _ => .error (.notAddable v.typeName w.typeName)

def sum : List Value → Except Fault Value
  | [] => .ok (.text "")
  | v :: vs => vs.foldlM add v

end Value

abbrev Variables := Bindings Value

namespace Expr

mutual

def eval (vars : Variables) : Expr → Except Fault Value
  | .value v => .ok v
  | .variable name =>
    match vars.get? name with
    | some v => .ok v
    | none => .error (.unknownName name)
  | .sum parts => do Value.sum (← evalList vars parts)
  | .list items => do return .list (← evalList vars items)
  | .mapping entries => do
    return .mapping ((← evalEntries vars entries).map fun (k, v) => (.text k, v))

def evalList (vars : Variables) : List Expr → Except Fault (List Value)
  | [] => .ok []
  | e :: es => do
    let v ← eval vars e
    return v :: (← evalList vars es)

def evalEntries (vars : Variables) : List (String × Expr) → Except Fault (List (String × Value))
  | [] => .ok []
  | (k, e) :: rest => do
    let v ← eval vars e
    return (k, v) :: (← evalEntries vars rest)

end

end Expr

end TestBench
