import TestBench.Shell.Arithmetic
import TestBench.Shell.Option

/-! The values that replace pieces of words: those of variables, some of which the shell sets, those
of arithmetic expressions, and the directories that a tilde stands for. -/
namespace TestBench.Shell

structure WordUse where
  parts : Bool := false
  tilde : Bool := false
  colons : Bool := false

namespace WordUse

def argument : WordUse := { parts := true, tilde := true }

def assigned : WordUse := { tilde := true, colons := true }

def single : WordUse := { tilde := true }

end WordUse

def joint (s : State) : String :=
  match s.value? "IFS" with
  | none => " "
  | some separators => String.ofList (separators.toList.take 1)

/-- The marks of all arguments, put together or as the words they are. -/
def argumentMarks (s : State) (use : WordUse) (words quoted : Bool) : List Mark :=
  if use.parts && quoted && words then
    if s.arguments.isEmpty then []
    else .splice true ::
      List.intercalate [.gap] (s.arguments.map fun a => a.toList.map (Mark.char · true))
  else if use.parts && !quoted then
    let between := if (s.value? "IFS").isSome then Mark.gap else .spliced ' '
    .splice false ::
      List.intercalate [between] (s.arguments.map fun a => a.toList.map Mark.spliced)
  else marksOf quoted ((joint s).intercalate s.arguments)

/-- The marks of the value of a variable, if it has one; some are set by the shell. -/
def valueMarks? (s : State) (use : WordUse) (name : String) (quoted : Bool) :
    Option (List Mark) :=
  let value? : Option String := match name with
    | "?" => some (toString s.status)
    | "$" => some processNumber
    | "#" => some (toString s.arguments.length)
    | "!" => s.background.head?.map (·.1)
    | "0" => some s.name
    | "-" => some (shownOptions s.options)
    | _ =>
      match natural? name with
      | some n => if n = 0 then some s.name else s.arguments[n - 1]?
      | none => s.value? name
  match name with
  | "@" => some (argumentMarks s use true quoted)
  | "*" => some (argumentMarks s use false quoted)
  | _ => value?.map (marksOf quoted)

def markLength (marks : List Mark) : Nat :=
  marks.countP fun
    | .char .. | .spliced _ | .gap => true
    | .place | .splice _ => false

def charactersToGap (marks : List Mark) : List Char :=
  (marks.takeWhile (· != .gap)).filterMap Mark.char?

/-- The marks without the start of their text that fits a pattern. What follows a gap only counts if
all before it fits where the longest start is wanted: then nothing is left. -/
def cutMarksStart (p : Pattern) (longest : Bool) (marks : List Mark) : List Mark :=
  let first := charactersToGap marks
  let lengths := p.startLengths first
  let count := if !longest then lengths.head?.getD 0
    else if lengths.contains first.length then markLength marks
    else lengths.getLast?.getD 0
  (marks.takeWhile fun m => m.char?.isNone) ++
    (marks.dropWhile fun m => m.char?.isNone && m != .gap).drop count

/-- The places in marks behind which a pattern fits all up to the next gap, or the end. -/
def endPlaces (p : Pattern) (n : Nat) : List Mark → List Nat
  | [] => if p.fits [] then [n] else []
  | m :: ms =>
    let more := endPlaces p (n + 1) ms
    let counts := m.char?.isSome || m == .gap
    if counts && p.fits (charactersToGap (m :: ms)) then n :: more else more

/-- The marks without the end of their text that fits a pattern. Where the longest end is wanted,
it starts before the first gap. -/
def cutMarksEnd (p : Pattern) (longest : Bool) (marks : List Mark) : List Mark :=
  let places := endPlaces p 0 marks
  let isBeforeGap (n : Nat) : Bool := !(marks.take n).contains .gap
  marks.take ((if longest then places.head?.filter isBeforeGap else places.getLast?).getD
    marks.length)

/-- Marks of characters of the command line that stand behind the name of a variable: unless they
are quoted, separators in them end words. -/
def asSpliced (after : Bool) : List Mark → List Mark
  | [] => []
  | .char c false :: rest =>
    (if after then [] else [.splice false]) ++ .spliced c :: asSpliced true rest
  | m :: rest => m :: asSpliced false rest

def homeDirectories : List (String × String) :=
  [("root", "/root"), ("daemon", "/usr/sbin"), ("bin", "/bin"), ("sys", "/dev"), ("sync", "/bin"),
    ("games", "/usr/games"), ("man", "/var/cache/man"), ("lp", "/var/spool/lpd"),
    ("mail", "/var/mail"), ("news", "/var/spool/news"), ("uucp", "/var/spool/uucp"),
    ("proxy", "/bin"), ("www-data", "/var/www"), ("backup", "/var/backups"),
    ("list", "/var/list"), ("irc", "/run/ircd"), ("nobody", "/nonexistent")]

/-- The directory that a tilde in front of pieces stands for, and the pieces behind its name. -/
def tilde? (s : State) (use : WordUse) (pieces : Word) : Option (String × Word) :=
  let ends (p : Piece) : Bool := match p with
    | .char c false => c = '/' || (use.colons && c = ':')
    | _ => false
  let name := pieces.takeWhile (!ends ·)
  match plainText? name with
  | none => none
  | some "" => (s.value? "HOME").map (·, pieces)
  | some user => (homeDirectories.lookup user).map (·, pieces.drop name.length)

def bindingsOf (s : State) : Bindings :=
  s.bindings.filterMap fun (name, v) => v.value.map (name, ·)

def calculate (text : String) : ShellM String := do
  let fail (what : String) : ShellM String :=
    failWith ("arithmetic expression: " ++ what ++ ": \x22" ++ text ++ "\x22")
  let before := bindingsOf (← get)
  let (result, after) := (Expression.ofText text.toList).eval.run.run before
  (after.take (after.length - before.length)).reverse.forM fun (name, value) => assign name value
  match result with
  | .ok n => return toString n
  | .error (.notNumber value) => failWith ("Illegal number: " ++ value)
  | .error (.malformed what) => fail what
  | .error .divisionByZero => fail "division by zero"
  | .error .overflow => throw (.killed 8)

end TestBench.Shell
