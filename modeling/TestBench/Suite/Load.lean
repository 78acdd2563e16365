import TestBench.FileTree.Directories
import TestBench.FileTree.PathText
import TestBench.Line.Reading
import TestBench.Script.Run
import TestBench.Text.LineBreak

/-! The tests of a run come from files, read one after the other. Files named as scripts are run,
others are read as text. All files draw their ids from one sequence; nothing else passes from one
file to the next. -/
namespace TestBench

def openFile (tree : FileTree) (path : String) : Except Fault Content :=
  if path.toList.contains '\x00' then .error .nullCharacter
  else
    match tree.read path with
    | .ok content => .ok content
    | .error e => .error (.file e)

def openLines (tree : FileTree) (path : String) : Except Fault Text.LineStream :=
  match openFile tree path with
  | .ok (.bytes bs) => .ok (Text.LineStream.ofBytes bs)
  | .ok (.script _) => .ok ⟨[], false⟩
  | .error f => .error f

def isIdleLine (cs : List Char) : Bool :=
  Line.isSkip (Text.trimEnd cs) || String.ofList (Text.trimEnd cs) == "pass"

/-- The script in a text. Of the texts that are not scripts yet, only those that do nothing are
understood. -/
def scriptOfText (file : String) (cs : List Char) : Except Stop Script :=
  if (Text.lines (Text.unifyBreaks cs)).all isIdleLine then .ok []
  else .error (.failure (.scriptFailed file "SyntaxError" "invalid syntax"))

def openScript (tree : FileTree) (path : String) : Except Stop Script :=
  match openFile tree path with
  | .error f => .error (.fault f)
  | .ok (.script steps) => .ok steps
  | .ok (.bytes bs) =>
    match Text.decode? bs with
    | none => .error (.fault .notUtf8)
    | some cs => scriptOfText path cs

namespace Flattening

/-- Flattens the lines of a stream. What cannot be decoded comes after all of them. -/
def runStream (fs : FileSystem) (source : Option String) (symbols : Symbols)
    (stream : Text.LineStream) : Flattening × Option Stop :=
  let r := run fs source symbols stream.lines
  (r, match r.failure with
    | some e => some (.failure e)
    | none => if stream.broken then some (.fault .notUtf8) else none)

end Flattening

structure TextResult where
  tests : List Test
  next : Int
  symbols : Symbols
  stop : Option Stop

/-- Reads a text file under the path it is opened with; the first test gets the id `next`. -/
def readTextFile (tree : FileTree) (fs : FileSystem) (path : String) (next : Int)
    (symbols : Symbols) : TextResult :=
  match openLines tree path with
  | .error f => ⟨[], next, symbols, some (.fault f)⟩
  | .ok stream =>
    let r := FileReading.run fs (some path) next symbols stream.lines
    let stop :=
      match r.failure with
      | some e => some (.failure e)
      | none => if stream.broken then some (.fault .notUtf8) else none
    ⟨r.tests, r.next, r.symbols, stop⟩

/-- Runs a script file; the first test gets the id `next`. A file that cannot be read as a script
leaves nothing. -/
def runScriptFile (tree : FileTree) (fs : FileSystem) (path : String) (next : Int) :
    Except Stop ScriptResult :=
  match openScript tree path with
  | .error e => .error e
  | .ok script => .ok (script.run fs path next)

/-- The tests loaded, the paths that scripts passed over, the id of the next test, and what stopped
the loading if something did. -/
structure Suite where
  tests : List Test := []
  skipped : List String := []
  next : Int
  stop : Option Stop := none

namespace Suite

def scriptExtension : String := ".py"

/-- Loads one file. A file that stops the loading contributes no tests. -/
def loadFile (tree : FileTree) (fs : FileSystem) (next : Int) (file : String) : Suite :=
  let path := tidyPath file
  if pathExtension file = scriptExtension then
    match runScriptFile tree fs path next with
    | .error e => { next, stop := some e }
    | .ok r =>
      match r.stop with
      | some e => { next := r.next, stop := some e }
      | none => { tests := r.tests, skipped := r.skipped, next := r.next }
  else
    let r := readTextFile tree fs path next {}
    match r.stop with
    | some e => { next := r.next, stop := some e }
    | none => { tests := r.tests, next := r.next }

def load (tree : FileTree) (fs : FileSystem) (next : Int) : List String → Suite
  | [] => { next }
  | file :: files =>
    let first := loadFile tree fs next file
    match first.stop with
    | some _ => first
    | none =>
      let rest := load tree fs first.next files
      { rest with
        tests := first.tests ++ rest.tests
        skipped := first.skipped ++ rest.skipped }

end Suite

end TestBench
