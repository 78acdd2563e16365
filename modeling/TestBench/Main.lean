import Std.Time.Zoned
import TestBench.CommandLine.Invocation
import TestBench.Shell.Process

/-! Reads what an invocation may look at, runs it, and writes what it has written. An invocation
sees the directories and the names of files below the working directory, and what the files hold
that its arguments name. Calls are answered by the shell of this library. -/
namespace TestBench.Program

/-- The tree with what lies in a directory, as far as that can be listed; files are taken as
empty. -/
partial def addBelow (tree : FileTree) (place : String) : IO FileTree := do
  let found ← try (System.mkFilePath [place]).readDir catch _ => pure #[]
  let mut tree := tree
  for entry in found do
    let path := place ++ "/" ++ entry.fileName
    match (← entry.path.symlinkMetadata).type with
    | .dir => tree ← addBelow (tree.addDirectory path) path
    | .file => tree := tree.add path (.file (.bytes []))
    | .symlink => tree := tree.add path (.link (← IO.FS.realPath entry.path).toString)
    | .other => pure ()
  return tree

/-- What of an argument may be the name of a file: all of it, or what stands behind an option. -/
def namesIn (argument : String) : List String :=
  [argument, String.ofList (argument.toList.drop 2),
    String.ofList ((argument.toList.dropWhile (· ≠ '=')).drop 1)]

def addContent (tree : FileTree) (name : String) : IO FileTree := do
  try
    let bytes ← IO.FS.readBinFile (System.mkFilePath [name])
    let place ← IO.FS.realPath (System.mkFilePath [name])
    return tree.add place.toString (.file (.bytes bytes.toList))
  catch _ => return tree

def snapshot (arguments : List String) : IO FileTree := do
  let here := (← IO.currentDir).toString
  let start := FileTree.empty ((pathNames here).filter (!FileTree.isHere ·))
  let tree ← addBelow (start.addDirectory here) here
  (arguments.flatMap namesIn).foldlM addContent tree

def store (before after : FileTree) : IO Unit :=
  after.entries.forM fun (place, entry) => do
    match entry with
    | .file (.bytes bytes) =>
      if before.bytesAt? place ≠ some bytes then
        IO.FS.writeBinFile (System.mkFilePath ["/" ++ "/".intercalate place]) ⟨bytes.toArray⟩
    | _ => pure ()

def now : IO Moment := do
  let t ← Std.Time.PlainDateTime.now
  match Moment.make t.year t.month.toInt t.day.toInt t.hour.toInt t.minute.toInt t.second.toInt 0
      none with
  | .ok m => return m
  | .error c => throw (IO.userError c.message)

def exitCode (n : Int) : UInt32 :=
  UInt32.ofNat (n.emod 256).toNat

/-- The exit code of an ending; what has none of its own is written as a message. -/
def codeOf (ending : Ending) : IO UInt32 := do
  let fail (message : String) : IO UInt32 := do
    IO.eprintln message
    return 1
  match ending with
  | .exit n => return exitCode n
  | .stopped (.failure f) => fail f.message
  | .stopped (.fault f) => fail (f.kind ++ ": " ++ f.message)
  | .stopped (.escape kind v) =>
    if kind ≠ exitKind then
      fail (kind ++ ": " ++ v.toText.toOption.getD "<exception str() failed>")
    else
      match v with
      | .null => return 0
      | .bool b => return if b then 1 else 0
      | .int n => return exitCode n
      | v => fail (v.toText.toOption.getD "")

def transcript (arguments : List String) (tree : FileTree) (start : Moment) (seconds : Binary64) :
    Transcript :=
  let executor : Executor Unit := fun command => return Shell.reply command
  ((CommandLine.invoke arguments { start, after := seconds } executor id tree).run ()).1

/-- Runs an invocation on the machine. What it does depends on nothing but what the program sees and
the clock, so a first run tells how long the second one takes. -/
def run (arguments : List String) : IO UInt32 := do
  let tree ← snapshot arguments
  let start ← now
  let before ← IO.monoNanosNow
  let trial := transcript arguments tree start Binary64.zero
  let length := trial.stdout.length + trial.stderr.length
  let after ← IO.monoNanosNow
  let seconds :=
    if length = 0 then Binary64.zero else Binary64.ofRat (mkRat (after - before) 1000000000)
  let t := transcript arguments tree start seconds
  store tree t.tree
  IO.print t.stdout
  IO.eprint t.stderr
  codeOf t.ending

end TestBench.Program

def main (arguments : List String) : IO UInt32 :=
  TestBench.Program.run arguments
