import TestBench.Test
import TestBench.Text.Quoted

/-! The errors that the program announces: each constructor is a cause, and `Failure.message` is the
wording. -/
namespace TestBench

structure Origin where
  source : Option String := none
  line : Option Int := none
  deriving DecidableEq, Repr, Inhabited

namespace Origin

/-- What stands before a message about a line; a line number counts only with a source. -/
def label (o : Origin) : String :=
  match o.source, o.line with
  | none, _ => ""
  | some source, none => source ++ ": "
  | some source, some n => source ++ ":" ++ toString n ++ ": "

/-- What stands before a message about a command: the number is always written. -/
def fullLabel (o : Origin) : String :=
  match o.source with
  | none => ""
  | some source =>
    source ++ ":" ++ (match o.line with | none => "None" | some n => toString n) ++ ": "

end Origin

inductive Failure where
  | malformedLine (reason line : String) (origin : Origin)
  /-- A test may not be declared with this expectation. The line is empty if the declaration was not
  a line. -/
  | invalidExpectation (expected line : String) (origin : Origin)
  | unknownCommand (command : String) (origin : Origin)
  | notDirectory (root : String)
  | unlistable (path reason : String)
  | unknownOptions (primitive : String) (options : List String)
  | scriptFailed (file kind text : String)
  | unresolvedStatus (id : Int) (path : String) (code : Int)
  | launchFailed (text : String)
  | settingsMissing (path : String)
  | settingsUnusable (path reason : String)
  deriving DecidableEq, Repr

namespace Failure

def badLine (line : String) (origin : Origin) : Failure :=
  .malformedLine "BAD LINE" line origin

/-- The line shown with an invalid expectation: the expectation itself if there was no line. -/
def shownLine (expected line : String) : String :=
  if line.isEmpty then expected else line

def message : Failure → String
  | .malformedLine reason line origin => origin.label ++ reason ++ ": " ++ line
  | .invalidExpectation expected line origin =>
    origin.label ++ "invalid expectation " ++ Text.quoted expected ++
      " (must be PASS or XFAIL): " ++ shownLine expected line
  | .unknownCommand command origin =>
    origin.fullLabel ++ "unknown macro command: $(" ++ command ++ ")"
  | .notDirectory root => "not a directory: " ++ root
  | .unlistable path reason => "cannot list directory " ++ path ++ ": " ++ reason
  | .unknownOptions primitive options =>
    primitive ++ "(): unknown option(s): " ++ ", ".intercalate options
  | .scriptFailed file kind text => file ++ ": " ++ kind ++ ": " ++ text
  | .unresolvedStatus id path code =>
    "test " ++ toString id ++ " (" ++ path ++ ") exited with unresolved status " ++ toString code
  | .launchFailed text => text
  | .settingsMissing path => "config file not found: " ++ path
  | .settingsUnusable path reason => "failed to load config file " ++ path ++ ": " ++ reason

end Failure

end TestBench
