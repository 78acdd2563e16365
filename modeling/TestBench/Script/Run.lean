import TestBench.Directory.Leaves
import TestBench.Script.Options

/-! A script runs on a state that outlives its errors: an id that was taken stays taken, and what
was declared before an error that the script swallows stays declared. -/
namespace TestBench

structure ScriptState where
  next : Int
  tests : List Test := []
  skipped : List String := []
  vars : Variables := {}

/-- An activity of a script: it ends early or not, and leaves a state either way. -/
abbrev ScriptM := ExceptT Stop (StateM ScriptState)

namespace ScriptM

def ofExcept {ε α : Type} (toStop : ε → Stop) : Except ε α → ScriptM α
  | .ok a => pure a
  | .error e => throw (toStop e)

end ScriptM

/-- Whether one of the values, as a text that is not empty, ends the path. Values behind the first
that does are not looked at. -/
def skips (path : String) : List Value → Except Fault Bool
  | [] => .ok false
  | v :: vs =>
    match v.toText with
    | .error f => .error f
    | .ok suffix =>
      if !suffix.isEmpty && suffix.toList.isSuffixOf path.toList then .ok true else skips path vs

/-- The suffixes that an option gives: one text, or a value with items. -/
def skipSuffixes (options : List (Value × Value)) : Except Fault (List Value) :=
  let v := (Value.find? (.text "skip") options).getD .null
  if !v.isTrue then .ok []
  else
    match v with
    | .text s => .ok [.text s]
    | v => v.items

def optionText (options : List (Value × Value)) (name : String) : Except Fault String :=
  match Value.find? (.text name) options with
  | none => .ok ""
  | some v => v.toText

/-- The expectation that the options give; a test is expected to pass unless they say otherwise. -/
def optionExpectation (options : List (Value × Value)) : Except Stop Outcome :=
  ((Value.find? (.text "expected") options).getD (.outcome .pass)).toExpectation

/-- What options say about a test, in the order in which it is looked at. -/
def testOptions (options : List (Value × Value)) : Except Stop (String × Outcome × String) := do
  let args ← (optionText options "args").mapError Stop.fault
  let expected ← optionExpectation options
  let comment ← (optionText options "comment").mapError Stop.fault
  return (args, expected, comment)

/-- What a call says before its test has an id: its options, its path, and the suffixes of paths
that are passed over. -/
def Call.reading (c : Call) : Except Stop (List (Value × Value) × String × List Value) := do
  let options ← c.mergedOptions .test
  let path ← c.path.toText.mapError Stop.fault
  let suffixes ← (skipSuffixes options).mapError Stop.fault
  return (options, path, suffixes)

/-- Declares a test, or passes it over. The id is taken before the options of the test are
looked at. -/
def declareTest (call : Call) : ScriptM (Option Test) := do
  let (options, path, suffixes) ← ScriptM.ofExcept id call.reading
  if ← ScriptM.ofExcept Stop.fault (skips path suffixes) then
    modify fun s => { s with skipped := s.skipped ++ [path] }
    return none
  else
    let taken := (← get).next
    modify fun s => { s with next := s.next + 1 }
    let (args, expected, comment) ← ScriptM.ofExcept id (testOptions options)
    let t : Test := { id := taken, path, args, expected, comment }
    modify fun s => { s with tests := s.tests ++ [t] }
    return some t

def loopDirectories (fs : FileSystem) (call : Call) : Except Stop (List String) :=
  match call.mergedOptions .expand with
  | .error e => .error e
  | .ok options =>
    if ((Value.find? (.text "disabled") options).getD .null).isTrue then .ok []
    else
      match call.path.toText with
      | .error f => .error (.fault f)
      | .ok path => (fs.leaves path).mapError Stop.failure

/-- The kinds of error that neither scripts nor their callers hold back. -/
def escapeKinds : List String :=
  [exitKind, "KeyboardInterrupt", "GeneratorExit", "BaseException"]

def properKind (kind : String) : String :=
  if ["IOError", "EnvironmentError"].contains kind then "OSError" else kind

/-- What is wrong with making an error of a kind from one value, where that needs more. -/
def tooFewParts? (kind : String) : Option String :=
  match kind with
  | "UnicodeDecodeError" | "UnicodeEncodeError" =>
    some "function takes exactly 5 arguments (1 given)"
  | "UnicodeTranslateError" => some "function takes exactly 4 arguments (1 given)"
  | "ExceptionGroup" | "BaseExceptionGroup" =>
    some "BaseExceptionGroup.__new__() takes exactly 2 arguments (1 given)"
  | _ => none

/-- The text of an error of a kind with a value. A missing key is shown quoted. -/
def errorText (kind : String) (v : Value) : Except Fault String :=
  if kind = "KeyError" then v.toQuoted else v.toText

/-- The error of a kind with a value. The value needs a text only where the error is shown. -/
def raisedStop (kind : String) (v : Value) : Stop :=
  match tooFewParts? kind with
  | some text => .fault (.raised "TypeError" (some text))
  | none =>
    if escapeKinds.contains kind then .escape kind v
    else .fault (.raised (properKind kind) (errorText kind v).toOption)

def evalCall (p : Primitive) (a : Arguments) : ScriptM Call := do
  let vars := (← get).vars
  ScriptM.ofExcept Stop.fault do
    let call ← Call.ofArguments vars a
    call.bind p

def assign (name : String) (v : Value) : ScriptM Unit :=
  modify fun s => { s with vars := s.vars.set name v }

/-- Goes on after an error, unless it escapes. -/
def holdBack : Stop → ScriptM Unit
  | .escape kind v => throw (.escape kind v)
  | _ => pure ()

mutual

def runStep (fs : FileSystem) : Step → ScriptM Unit
  | .test arguments into => do
    let declared ← declareTest (← evalCall .test arguments)
    match into with
    | none => pure ()
    | some name => assign name ((declared.map Value.test).getD .null)
  | .expand arguments loopVariable body => do
    let call ← evalCall .expand arguments
    let directories ← ScriptM.ofExcept id (loopDirectories fs call)
    directories.forM fun d => do
      assign loopVariable (.text d)
      runSteps fs body
  | .expandOnly arguments => do
    let _ ← evalCall .expand arguments
  | .assign name e => do
    let vars := (← get).vars
    assign name (← ScriptM.ofExcept Stop.fault (e.eval vars))
  | .fail kind message => do
    let vars := (← get).vars
    let v ← ScriptM.ofExcept Stop.fault (message.eval vars)
    throw (raisedStop kind v)
  | .attempt body => tryCatch (runSteps fs body) holdBack

def runSteps (fs : FileSystem) : List Step → ScriptM Unit
  | [] => pure ()
  | step :: steps => do
    runStep fs step
    runSteps fs steps

end

structure ScriptResult where
  stop : Option Stop
  next : Int
  tests : List Test
  skipped : List String

def initialVariables (file : String) : Variables :=
  ⟨[("__name__", .text "__regtest__"), ("__file__", .text file), ("PASS", .outcome .pass),
    ("XFAIL", .outcome .xfail)]⟩

/-- The error that a script ends with, seen from outside. One without a text fails to be
announced. -/
def outerStop (file : String) : Stop → Stop
  | .fault (.raised _ none) => .fault .longNumber
  | .fault f => .failure (.scriptFailed file f.kind f.message)
  | e => e

namespace Script

def run (fs : FileSystem) (file : String) (next : Int) (script : Script) : ScriptResult :=
  let (result, s) := (runSteps fs script).run { next, vars := initialVariables file }
  { stop := match result with
      | .ok _ => none
      | .error e => some (outerStop file e)
    next := s.next, tests := s.tests, skipped := s.skipped }

end Script

end TestBench
