import TestBench.Line.Flat

/-! Flat lines are read as tests, which get consecutive ids. A file is read while it is flattened,
so what comes before a failure has been read; the lines of a failure in reading are counted among
the flat lines, those of a failure in flattening among the lines of the file. -/
namespace TestBench

structure Reading where
  tests : List Test
  next : Int
  failure : Option Failure
  deriving DecidableEq, Repr

namespace Test

/-- The test of the fields of a line; the expectation is one if the fields are valid. -/
def ofFields (id : Int) (f : Fields) : Test where
  id := id
  path := String.ofList f.path
  args := String.ofList f.args
  expected := (Outcome.ofName? (String.ofList f.expected)).getD .pass
  comment := String.ofList (f.comment.getD [])

def ofLine (id : Int) (origin : Origin) (line : String) : Except Failure Test :=
  let text := Line.content line
  match Fields.ofText? text with
  | none => .error (.badLine (String.ofList text) origin)
  | some f =>
    if Line.isExpectation f.expected then .ok (ofFields id f)
    else .error (.invalidExpectation (String.ofList f.expected) (String.ofList text) origin)

end Test

namespace Reading

/-- Reads flat lines of which the first has the number `n`; the first test gets the id `next`. A
line that is no test takes no id. -/
def runFrom (source : Option String) : Nat → Int → List String → Reading
  | _, next, [] => ⟨[], next, none⟩
  | n, next, line :: rest =>
    if Line.isSkip (Line.content line) then runFrom source (n + 1) next rest
    else
      match Test.ofLine next ⟨source, some n⟩ line with
      | .error e => ⟨[], next, some e⟩
      | .ok t =>
        let r := runFrom source (n + 1) (next + 1) rest
        { r with tests := t :: r.tests }

def run (source : Option String) (next : Int) (lines : List String) : Reading :=
  runFrom source 1 next lines

end Reading

structure FileReading where
  tests : List Test
  next : Int
  symbols : Symbols
  failure : Option Failure
  deriving DecidableEq, Repr

namespace FileReading

/-- Flattens and reads lines. The first of them has the number `n`, the first flat line the number
`k`, and the first test gets the id `next`. -/
def runFrom (fs : FileSystem) (source : Option String) :
    Nat → Nat → Int → Symbols → List String → FileReading
  | _, _, next, symbols, [] => ⟨[], next, symbols, none⟩
  | n, k, next, symbols, line :: rest =>
    match (Line.ofText line).contribution fs ⟨source, some n⟩ with
    | .error e => ⟨[], next, symbols, some e⟩
    | .ok (.symbol name value) =>
      runFrom fs source (n + 1) k next (symbols.set name value) rest
    | .ok (.lines flat) =>
      let here := Reading.runFrom source k next flat
      match here.failure with
      | some e => ⟨here.tests, here.next, symbols, some e⟩
      | none =>
        let r := runFrom fs source (n + 1) (k + flat.length) here.next symbols rest
        { r with tests := here.tests ++ r.tests }

def run (fs : FileSystem) (source : Option String) (next : Int) (symbols : Symbols)
    (lines : List String) : FileReading :=
  runFrom fs source 1 1 next symbols lines

end FileReading

end TestBench
