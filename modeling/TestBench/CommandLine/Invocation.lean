import TestBench.CommandLine.Arguments
import TestBench.CommandLine.Help
import TestBench.Session.Transcript
import TestBench.Settings.Load

/-! The program as it is called: the arguments are taken apart, the settings are loaded if the
arguments name a file of them, and a session is run. A mistake in the arguments, or settings of no
use, end it before the session. -/
namespace TestBench.CommandLine

def Options.settings (o : Options) (tree : FileTree) (read : ValueReader) :
    Except Stop Settings :=
  match o.config with
  | none => .ok {}
  | some path => if path.isEmpty then .ok {} else (Settings.loadBy read tree path true).result

def Options.request (o : Options) (settings : Settings) (extraArgs : List String) : Request where
  files := o.files
  settings := settings
  mailTo := o.mailTo
  jobs := o.jobs
  patterns := o.patterns
  listOnly := o.listOnly
  extraArgs := extraArgs

def refused (tree : FileTree) (e : ArgumentError) : Transcript :=
  { tree, stderr := usageError e.message, ending := .exit 2 }

def invoke {σ : Type} (arguments : List String) (clock : Clock) (exec : Executor σ)
    (complete : List Test → List Test) (tree : FileTree) (read : ValueReader := Yaml.read) :
    StateM σ Transcript :=
  let (own, extraArgs) := splitToolArguments arguments
  match Demand.ofArguments own with
  | .help => return { tree, stdout := help, ending := .exit 0 }
  | .error e => return refused tree e
  | .fault f => return { tree, ending := .stopped (.fault f) }
  | .options o =>
    match o.settings tree read with
    | .error (.failure f) => return refused tree (.settings f.message)
    | .error s => return { tree, ending := .stopped s }
    | .ok settings =>
      (o.request settings extraArgs).run o.output o.logfile clock exec complete tree

end TestBench.CommandLine
