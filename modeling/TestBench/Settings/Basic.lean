import TestBench.Text.Blank
import TestBench.Value.Integer

/-! How the tool is called, what its exit codes mean, and how many tests run at once. Settings are
read from a value in three sections; what is not given has a default. -/
namespace TestBench

structure Tool where
  command : String := "rt"
  argsFlag : String := "--chow-args"
  targetFlag : String := "--test"
  exitFlag : String := "--exit-on-failure"
  extraArgs : List String := []
  deriving DecidableEq, Repr, Inhabited

structure ExitCodes where
  success : Int := 0
  failure : Int := 99
  deriving DecidableEq, Repr, Inhabited

structure Settings where
  tool : Tool := {}
  exitCodes : ExitCodes := {}
  /-- The number of tests that may run at once, at least one. -/
  maxWorkers : Int := 1
  deriving DecidableEq, Repr, Inhabited

namespace Settings

/-- The value of a section; one that does not count as given is empty. -/
def givenSection (data : Value) (name : String) : Except Fault Value := do
  let v := (← data.get name).getD .null
  return if v.isTrue then v else .mapping []

def textField (part : Value) (name default : String) : Except Fault String := do
  match ← part.get name with
  | none => return default
  | some v => v.toText

def integerField (part : Value) (name : String) (default : Int) : Except Fault Int := do
  match ← part.get name with
  | none => return default
  | some v => v.toInteger

/-- The arguments that a value lists: the words of a text, the items of anything else. -/
def argumentList (v : Value) : Except Fault (List String) :=
  if !v.isTrue then .ok []
  else
    match v with
    | .text s => .ok ((Text.words s.toList).map String.ofList)
    | v => do (← v.items).mapM Value.toText

def toolOfValue (data : Value) : Except Fault Tool := do
  let part ← givenSection data "tool"
  let extra := (← part.get "extra_args").getD .null
  return {
    command := ← textField part "command" "rt"
    argsFlag := ← textField part "args_flag" "--chow-args"
    targetFlag := ← textField part "target_flag" "--test"
    exitFlag := ← textField part "exit_on_failure_flag" "--exit-on-failure"
    extraArgs := ← argumentList extra }

def exitCodesOfValue (data : Value) : Except Fault ExitCodes := do
  let part ← givenSection data "exit_codes"
  return {
    success := ← integerField part "success" 0
    failure := ← integerField part "failure" 99 }

def maxWorkersOfValue (data : Value) : Except Fault Int := do
  let part ← givenSection data "parallel"
  return max 1 (← integerField part "max_workers" 1)

def ofValue (data : Value) : Except Fault Settings := do
  return {
    tool := ← toolOfValue data
    exitCodes := ← exitCodesOfValue data
    maxWorkers := ← maxWorkersOfValue data }

end Settings

end TestBench
