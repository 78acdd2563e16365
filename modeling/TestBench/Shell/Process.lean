import TestBench.Run.Launch
import TestBench.Shell.Run
import TestBench.Text.LineBreak

/-! A command line is run on an empty input. What its commands write, messages included, is one
output, in the order in which it is written; the code is that of the last command, or the signal
that ended the shell, as a negative number. -/
namespace TestBench.Shell

/-- The number of steps inside one another that a text may take when it is run. -/
def stepLimit (text : String) : Nat :=
  1000000000 + 8 * text.length

/-- What a process leaves behind: its code, or the negative number of the signal that ended it, and
the bytes it wrote. -/
structure Exit where
  code : Int
  output : List UInt8
  deriving DecidableEq, Repr

def execute (commandLine : String) : Exit :=
  let text := byteText commandLine
  let fuel := stepLimit text
  let call := ShellCall.ofWords {} shellName ["-c", text]
  let (result, s) := (runCalled call fuel).run.run (({} : State).ofCall call)
  let output := s.screen.reverse.flatten
  match result with
  | .ok code => ⟨code % 256, output⟩
  | .error (.killed signal) => ⟨-signal, output⟩
  | .error _ => ⟨s.status % 256, output⟩

/-- The text of an output, with line ends made alike and a sign for what is no text. -/
def outputText (bytes : List UInt8) : String :=
  String.ofList (Text.unifyBreaks (Text.decodeLossy bytes))

/-- The number of bytes that an argument of a program may have, with the zero at its end. -/
def argumentLimit : Nat := 131072

/-- The reply of the shell to a call. A command line with the character of number zero is no call
that can be made. -/
def reply (commandLine : String) : Except Fault Reply :=
  if commandLine.toList.contains '\x00' then .error .nullCharacter
  else if argumentLimit ≤ (Text.encode commandLine.toList).length then
    Reply.ofLaunchError commandLine [.int 7, .text "Argument list too long", .text shellName]
  else
    let e := execute commandLine
    .ok (.exited e.code (outputText e.output))

end TestBench.Shell
