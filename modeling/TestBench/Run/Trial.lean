import TestBench.Settings.Basic
import TestBench.Shell.Quote
import TestBench.Stop

/-! A test is run by one call of the tool. Its exit code and the expectation of the test make the
outcome; everything about the call goes into one block of the log. -/
namespace TestBench

/-- What became of a call: the tool left with a code and wrote an output, or it could not be
started. -/
inductive Reply where
  | exited (code : Int) (output : String)
  | notLaunched (message : String)
  deriving DecidableEq, Repr, Inhabited

namespace Tool

def words (tool : Tool) (t : Test) (extraArgs : List String) : List String :=
  [tool.command, tool.argsFlag ++ "=" ++ t.args, tool.targetFlag ++ "=" ++ t.path, tool.exitFlag] ++
    tool.extraArgs ++ extraArgs

def commandLine (tool : Tool) (t : Test) (extraArgs : List String) : String :=
  Shell.commandLine (tool.words t extraArgs)

end Tool

namespace ExitCodes

/-- The outcome of a test that the tool left with a code. If both codes are the same it counts as
that of success. -/
def classify (codes : ExitCodes) (t : Test) (code : Int) : Except Failure Outcome :=
  match t.expected with
  | .pass =>
    if code = codes.success then .ok .pass
    else if code = codes.failure then .ok .fail
    else .error (.unresolvedStatus t.id t.path code)
  | .xfail =>
    if code = codes.success then .ok .xpass
    else if code = codes.failure then .ok .xfail
    else .error (.unresolvedStatus t.id t.path code)
  | o => .error (.invalidExpectation o.name t.listing {})

end ExitCodes

def dropFinalBreaks (s : String) : String :=
  String.ofList (s.toList.reverse.dropWhile (· = '\n')).reverse

def finishLine (status : String) : String :=
  "**** TEST FINISHED WITH STATUS: " ++ status ++ " ****"

def linesText (lines : List String) : String :=
  String.join (lines.map (· ++ "\n"))

/-- One test that was run: the call, the block of the log, and the outcome, which is none if the
tool could not be started. -/
structure Trial where
  test : Test
  command : String
  block : List String
  verdict : Except Stop (Option Outcome)

namespace Trial

def opening (t : Test) (command : String) : List String :=
  ["**** Running Test " ++ toString t.id ++ " ****", command]

def ofReply (settings : Settings) (extraArgs : List String) (t : Test) (reply : Reply) : Trial :=
  let command := settings.tool.commandLine t extraArgs
  match reply with
  | .notLaunched message =>
    { test := t, command, verdict := .ok none
      block := opening t command ++ ["[ERROR] " ++ message, finishLine "error"] }
  | .exited code output =>
    let said := opening t command ++
      ["test script exited with status: " ++ toString code, dropFinalBreaks output]
    match settings.exitCodes.classify t code with
    | .ok o =>
      { test := t, command, verdict := .ok (some o), block := said ++ [finishLine o.status] }
    | .error (.unresolvedStatus id path code) =>
      { test := t, command, verdict := .error (.failure (.unresolvedStatus id path code))
        block := said ++ [finishLine "unresolved"] }
    | .error e => { test := t, command, verdict := .error (.failure e), block := said }

/-- The trial of a test whose call got a reply, or is none that can be made. -/
def ofAnswer (settings : Settings) (extraArgs : List String) (t : Test) :
    Except Fault Reply → Trial
  | .ok reply => ofReply settings extraArgs t reply
  | .error f =>
    let command := settings.tool.commandLine t extraArgs
    { test := t, command, verdict := .error (.fault f), block := opening t command }

def log (t : Trial) : String :=
  linesText t.block

end Trial

end TestBench
