import TestBench.Report.Summary
import TestBench.Run.Sequence
import TestBench.Suite.Load
import TestBench.Text.LowerCase

/-! A session loads a suite, selects tests, and lists or runs them. It says two things: the log,
about what it does, and the report, about what came out; and it ends with an exit code unless
something stops it that it does not hold back. -/
namespace TestBench

structure Request where
  files : List String
  settings : Settings := {}
  mailTo : Option String := none
  /-- The number of tests that may run at once, if not that of the settings. -/
  jobs : Option Int := none
  patterns : List String := []
  listOnly : Bool := false
  extraArgs : List String := []

/-- What the clocks say: when the run starts, and the counter of seconds before and after it. -/
structure Clock where
  start : Moment
  before : Binary64 := Binary64.zero
  after : Binary64 := Binary64.zero

inductive Ending where
  | exit (code : Int)
  | stopped (s : Stop)

structure Account where
  log : List String := []
  report : List String := []
  ending : Ending

def labelled (label message : String) : String :=
  "[" ++ label ++ "] " ++ message

namespace Text

def holds (cs part : List Char) : Bool :=
  match cs with
  | [] => part.isEmpty
  | c :: rest => part.isPrefixOf (c :: rest) || holds rest part

end Text

/-- Whether the path of a test holds one of the patterns, whatever the case of letters. -/
def Test.matchesAny (patterns : List String) (t : Test) : Bool :=
  let path := Text.lower t.path.toList
  patterns.any fun p => Text.holds path (Text.lower p.toList)

/-- The tests that patterns select: all of them if no pattern is more than empty. -/
def select (patterns : List String) (tests : List Test) : List Test :=
  let patterns := patterns.filter (!·.isEmpty)
  if patterns.isEmpty then tests else tests.filter (Test.matchesAny patterns)

namespace RunEvent

def lines : RunEvent → List String
  | .trial t => t.block
  | .notice n =>
    [labelled ((n.outcome.map Outcome.name).getD "ERROR")
      (toString n.test.id ++ "|" ++ n.test.path ++ " (" ++ n.progress.fixed 1 ++ "%)")]

end RunEvent

namespace Account

def failed (log : List String) (message : String) : Account :=
  { log, report := [labelled "ERROR" message], ending := .exit 2 }

/-- The account of a session that something stops: what the program announces becomes its report,
and so do errors of the operating system if `system` is set. -/
def stopped (system : Bool) (log : List String) : Stop → Account
  | .failure f => failed log f.message
  | .fault f =>
    if system && f.isSystem then failed log f.message else { log, ending := .stopped (.fault f) }
  | s => { log, ending := .stopped s }

end Account

namespace Request

def mailLines (r : Request) : List String :=
  match r.mailTo with
  | none => []
  | some address =>
    if address.isEmpty then []
    else [labelled "WARN" ("mailing results to " ++ address ++ " is not supported, ignoring")]

def startLines (r : Request) (start : Moment) (tests : List Test) : List String :=
  [labelled "INFO" "STARTING TEST RUN", labelled "INFO" start.stamp,
    labelled "INFO" ("found " ++ toString tests.length ++ " tests in " ++ toString r.files.length ++
      " file(s)")]

end Request

def launchLines (s : Stats) : List String :=
  if s.errors.isEmpty then []
  else [labelled "ERROR" (toString s.errors.length ++ " test(s) could not be launched")]

/-- The exit code of a run that came to its end: zero if no test failed against its expectation and
all could be run. -/
def Stats.exitCode (s : Stats) : Int :=
  if s.counter .fail = 0 ∧ s.errors.isEmpty then 0 else 1

namespace Account

/-- The account of a run; `log` is what was said before it. -/
def ofRun (clock : Clock) (log : List String) (result : RunResult) : Account :=
  let log := log ++ result.events.flatMap RunEvent.lines
  match result.stop with
  | some s => Account.stopped false log s
  | none =>
    let elapsed := clock.after.sub clock.before
    match elapsedLine elapsed, Report.summary result.stats clock.start elapsed with
    | .ok line, .ok report =>
      { log := log ++ labelled "INFO" line :: launchLines result.stats
        report, ending := .exit result.stats.exitCode }
    | .error f, _ | _, .error f => { log, ending := .stopped (.fault f) }

end Account

namespace Request

/-- Lists or runs tests that were selected. `complete` puts tests that run at once into the order in
which they complete. -/
def perform {σ : Type} (r : Request) (clock : Clock) (exec : Executor σ)
    (complete : List Test → List Test) (tests : List Test) : StateM σ Account :=
  if r.listOnly then return { report := Report.listing tests, ending := .exit 0 }
  else do
    let result ← RunResult.run r.settings r.extraArgs exec complete r.jobs tests
    return Account.ofRun clock (r.startLines clock.start tests) result

def account {σ : Type} (r : Request) (clock : Clock) (exec : Executor σ)
    (complete : List Test → List Test) (suite : Suite) : StateM σ Account := do
  let skipped := suite.skipped.map fun path => labelled "INFO" ("skipped " ++ path)
  match suite.stop with
  | some s => return Account.stopped true skipped s
  | none =>
    let a ← r.perform clock exec complete (select r.patterns suite.tests)
    return { a with log := skipped ++ a.log }

end Request

end TestBench
