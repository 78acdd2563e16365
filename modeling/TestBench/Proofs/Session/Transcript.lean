import TestBench.Proofs.Run.Trials
import TestBench.Session.Transcript

/-! Sessions whose log and report can be opened: what is seen is written from the account, and the
account is one of the suite that is loaded after both have been opened. -/
namespace TestBench

namespace Request

def transcript (r : Request) (report log : Sink) (tree : FileTree) (a : Account) : Transcript where
  tree := report.write (linesText a.report) (log.write (linesText (r.mailLines ++ a.log)) tree)
  stdout := report.shown (linesText a.report)
  stderr := log.shown (linesText (r.mailLines ++ a.log))
  ending := a.ending

/-- The tree that a session loads its suite from, once log and report have been opened. -/
def loadTree (r : Request) (log : Sink) (tree : FileTree) : FileTree :=
  log.write (linesText r.mailLines) tree

def suite (r : Request) (log : Sink) (tree : FileTree) : Suite :=
  Suite.load (r.loadTree log tree) (r.loadTree log tree).fileSystem 1 r.files

/-- The lines about the paths that scripts passed over. -/
def skippedLines (s : Suite) : List String :=
  s.skipped.map fun path => labelled "INFO" ("skipped " ++ path)

variable {r : Request} {output logfile : Option String} {report log : Sink}
  {tree reportTree logTree : FileTree}

theorem run_of_opened {σ : Type} (clock : Clock) (exec : Executor σ)
    (complete : List Test → List Test) (w : σ)
    (report_opens : Sink.start tree output = .ok (report, reportTree))
    (log_opens : Sink.start reportTree logfile = .ok (log, logTree)) :
    (r.run output logfile clock exec complete tree).run w =
      let a := (r.account clock exec complete (r.suite log logTree)).run w
      (r.transcript report log (r.loadTree log logTree) a.1, a.2) := by
  simp only [run, report_opens, log_opens]
  rfl

theorem account_of_stopped {σ : Type} (clock : Clock) (exec : Executor σ)
    (complete : List Test → List Test) (w : σ) {s : Suite} {e : Stop} (stopped : s.stop = some e) :
    (r.account clock exec complete s).run w = (Account.stopped true (skippedLines s) e, w) := by
  simp only [account, stopped]
  rfl

theorem account_of_loaded {σ : Type} (clock : Clock) (exec : Executor σ)
    (complete : List Test → List Test) (w : σ) {s : Suite} (loaded : s.stop = none)
    (runs : r.listOnly = false) :
    ((r.account clock exec complete s).run w).1 =
      let selected := select r.patterns s.tests
      let a := Account.ofRun clock (r.startLines clock.start selected)
        ((RunResult.run r.settings r.extraArgs exec complete r.jobs selected).run w).1
      { a with log := skippedLines s ++ a.log } := by
  simp only [account, loaded, perform, runs, Bool.false_eq_true, if_false]
  rfl

end Request

end TestBench
