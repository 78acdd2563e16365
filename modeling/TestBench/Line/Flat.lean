import TestBench.Bindings
import TestBench.Directory.Leaves
import TestBench.Line.Basic

/-! A test file is flattened line by line: a line with a command gives one line for each leaf
directory below the root it names, a definition is kept as a symbol, and test lines stay as they
are. The first line that is in error ends it; a command gives all of its lines or none. -/
namespace TestBench

abbrev Symbols := Bindings String

inductive Contribution where
  | lines (flat : List String)
  | symbol (name value : String)
  deriving DecidableEq, Repr

namespace Line

def leafLine (rest leaf : String) : String :=
  leaf ++ "|" ++ rest

/-- What a line contributes to the flat lines. The one command there is takes a directory, which is
put behind the stem. -/
def contribution (fs : FileSystem) (origin : Origin) : Line → Except Failure Contribution
  | .skip => .ok (.lines [])
  | .definition name value => .ok (.symbol name value)
  | .literal text => .ok (.lines [text])
  | .expansion stem ["expand", directory] rest =>
    (fs.leaves (stem ++ directory)).map fun leaves => .lines (leaves.map (leafLine rest))
  | .expansion _ command _ => .error (.unknownCommand (" ".intercalate command) origin)
  | .malformed text none => .error (.badLine text origin)
  | .malformed text (some expected) => .error (.invalidExpectation expected text origin)

end Line

/-- What became of a list of lines: the flat lines and symbols up to its end or to the failure. -/
structure Flattening where
  lines : List String
  symbols : Symbols
  failure : Option Failure
  deriving DecidableEq, Repr

namespace Flattening

/-- Flattens lines of which the first has the number `n`. -/
def runFrom (fs : FileSystem) (source : Option String) :
    Nat → Symbols → List String → Flattening
  | _, symbols, [] => ⟨[], symbols, none⟩
  | n, symbols, line :: rest =>
    match (Line.ofText line).contribution fs ⟨source, some n⟩ with
    | .error e => ⟨[], symbols, some e⟩
    | .ok (.symbol name value) => runFrom fs source (n + 1) (symbols.set name value) rest
    | .ok (.lines flat) =>
      let r := runFrom fs source (n + 1) symbols rest
      { r with lines := flat ++ r.lines }

def run (fs : FileSystem) (source : Option String) (symbols : Symbols) (lines : List String) :
    Flattening :=
  runFrom fs source 1 symbols lines

end Flattening

end TestBench
