import TestBench.Session.Basic

/-! Log and report go to the standard streams or to files. The files are made empty before anything
is read, so a session can overwrite what it was to load; each of the two is written from its own
start, and the report last. -/
namespace TestBench

inductive Sink where
  | standard
  | file (place : Location)
  deriving DecidableEq, Repr

namespace Sink

/-- Opens a sink: an empty file at the path, or the standard stream if there is no path. -/
def start (tree : FileTree) (path : Option String) : Except Fault (Sink × FileTree) :=
  match path with
  | none => .ok (.standard, tree)
  | some path =>
    if path.isEmpty then .ok (.standard, tree)
    else if path.toList.contains '\x00' then .error .nullCharacter
    else
      match tree.locateToCreate path with
      | .error e => .error (.file e)
      | .ok place => .ok (.file place, tree.truncate place)

def write (s : Sink) (text : String) (tree : FileTree) : FileTree :=
  match s with
  | .standard => tree
  | .file place =>
    if text.isEmpty then tree else tree.writeAt place 0 (Text.encode text.toList)

def shown (s : Sink) (text : String) : String :=
  match s with
  | .standard => text
  | .file _ => ""

end Sink

structure Transcript where
  tree : FileTree
  stdout : String := ""
  stderr : String := ""
  ending : Ending

namespace Request

def run {σ : Type} (r : Request) (output logfile : Option String) (clock : Clock)
    (exec : Executor σ) (complete : List Test → List Test) (tree : FileTree) :
    StateM σ Transcript := do
  match Sink.start tree output with
  | .error f => return { tree, ending := .stopped (.fault f) }
  | .ok (report, tree) =>
    match Sink.start tree logfile with
    | .error f => return { tree, ending := .stopped (.fault f) }
    | .ok (log, tree) =>
      let tree := log.write (linesText r.mailLines) tree
      let a ← r.account clock exec complete (Suite.load tree tree.fileSystem 1 r.files)
      let logText := linesText (r.mailLines ++ a.log)
      let reportText := linesText a.report
      return {
        tree := report.write reportText (log.write logText tree)
        stdout := report.shown reportText
        stderr := log.shown logText
        ending := a.ending }

end Request

end TestBench
