import TestBench.CommandLine.Flag

/-! The texts about the program itself. The help lists the flags in two columns: what a flag looks
like, and what it does, broken into lines of limited width. -/
namespace TestBench.CommandLine

def programName : String := "regtest"

def usage : String :=
  "usage: regtest [options] -f <file> [-f <file2> ...] [-- TOOL_ARGS...]\n"

def purpose : String := "Run regression tests for the chow allocator"

def closing : String := "arguments after -- are passed to every tool invocation"

def descriptionColumn : Nat := 24

def descriptionWidth : Nat := 54

/-- Words put into lines, each with as many words as fit; `line` is the line being filled. -/
def fill (width : Nat) (line : String) : List String → List String
  | [] => [line]
  | word :: words =>
    if line.isEmpty then fill width word words
    else if line.length + 1 + word.length ≤ width then fill width (line ++ " " ++ word) words
    else line :: fill width word words

def spaces (n : Nat) : String :=
  String.ofList (List.replicate n ' ')

namespace Flag

def invocation (f : Flag) : String :=
  ", ".intercalate (f.spellings.map fun s => s ++ ((f.placeholder.map (" " ++ ·)).getD ""))

/-- The lines of the help about a flag. A flag that leaves no room before the descriptions gets a
line of its own. -/
def helpLines (f : Flag) : List String :=
  let first := "  " ++ f.invocation
  let described := fill descriptionWidth "" (f.description.splitOn " ")
  let indented := described.map (spaces descriptionColumn ++ ·)
  if first.length + 2 ≤ descriptionColumn then
    match described with
    | [] => [first]
    | line :: _ => (first ++ spaces (descriptionColumn - first.length) ++ line) :: indented.drop 1
  else first :: indented

end Flag

def help : String :=
  let flags := (Flag.all.flatMap Flag.helpLines).map (· ++ "\n")
  usage ++ "\n" ++ purpose ++ "\n\noptions:\n" ++ String.join flags ++ "\n" ++ closing ++ "\n"

def usageError (message : String) : String :=
  usage ++ programName ++ ": error: " ++ message ++ "\n"

end TestBench.CommandLine
