import TestBench.Run.Trial

/-! Why a call cannot be started is said by the system in values: a number and a text, often the
name of a file, sometimes that of a second one. Main definition: `Reply.ofLaunchError`, the reply to
a call that was not started. -/
namespace TestBench

def systemReason (number text : Value) (files : List Value) : Except Fault String := do
  let stem := "[Errno " ++ (← number.toText) ++ "] " ++ (← text.toText)
  match files with
  | [] => return stem
  | [file] => return stem ++ ": " ++ (← file.toQuoted)
  | file :: other :: _ =>
    return stem ++ ": " ++ (← file.toQuoted) ++ " -> " ++ (← other.toQuoted)

/-- The files among the values behind number and text: the first of these values and the third; the
second names nothing, and a second file counts only with a first one. -/
def involvedFiles : List Value → List Value
  | .null :: _ => []
  | [file, _, .null] => [file]
  | [file, _, other] => [file, other]
  | file :: _ => [file]
  | [] => []

/-- The reason that values give. No more than five values are read as number, text and files. -/
def launchReason : List Value → Except Fault String
  | [] => .ok ""
  | [reason] => reason.toText
  | number :: text :: more =>
    if more.length ≤ 3 then systemReason number text (involvedFiles more)
    else (Value.tuple (number :: text :: more)).toQuoted

def Reply.ofLaunchError (command : String) (reason : List Value) : Except Fault Reply := do
  return .notLaunched ("failed to launch command: " ++ command ++ ": " ++ (← launchReason reason))

end TestBench
