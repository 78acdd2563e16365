import TestBench.Proofs.Run.Parallel
import TestBench.Proofs.Run.Safety
import TestBench.Proofs.Suite.Load

/-! From files to runs: what is loaded can be run, whatever is chosen from it and whatever the tool
answers. -/
namespace TestBench

/-- Loaded tests have increasing ids, from the one that came next before the loading up to the one
that comes next after it, proper expectations and no results. Whichever of them are run, with any
number of workers, only an exit code without a meaning can stop the run. -/
theorem loaded_tests_run {σ : Type} (tree : FileTree) (fs : FileSystem) (next : Int)
    (files : List String) (settings : Settings) (extraArgs : List String) {exec : Executor σ}
    (replies : exec.Replies) {complete : List Test → List Test}
    (permutes : ∀ ts, (complete ts).Perm ts) (workers : Option Int) (w : σ) :
    let suite := Suite.load tree fs next files
    Test.Drawn next suite.next suite.tests ∧
      ∀ ts : List Test, ts.Sublist suite.tests →
        ((RunResult.run settings extraArgs exec complete workers ts).run w).1.StopsOnCode
          settings ts ∧
        ∀ (threads : Nat) (moves : List Pool.Move) (p : Pool σ),
          Pool.run settings extraArgs exec threads ts.length moves
            { waiting := ts, world := w } = some p →
          p.outcome.StopsOnCode settings ts := by
  intro suite
  have drawn := Suite.drawn_load tree fs next files
  refine ⟨drawn, fun ts chosen => ?_⟩
  have distinct := drawn.nodup_of_sublist chosen
  have declared : ∀ t ∈ ts, t.expected.isExpectation = true := fun t ht =>
    drawn.declared t (chosen.subset ht)
  refine ⟨run_stops_on_code replies distinct declared permutes workers w, ?_⟩
  intro threads moves p ran
  exact (Pool.sound_run replies declared (Pool.sound_start distinct w) ran).stop

/-- A script is loaded twice that takes an id for a test with a bad expectation, goes on, and
declares another test. The tool leaves with a code that means nothing. -/
theorem loaded_tests_run_of_script :
    let script : Script :=
      [.attempt [.test { path := .value (.text "v"), named := [("expected", .value .null)] } none],
        .test { path := .value (.text "v") } none]
    let tree : FileTree := { entries := [(["s.py"], .file (.script script))] }
    let suite := Suite.load tree tree.fileSystem 1 ["s.py", "s.py"]
    let exec := Executor.answering fun _ => .exited 5 ""
    suite.tests.map Test.id = [2, 4] ∧ exec.Replies ∧ (∀ ts : List Test, ts.reverse.Perm ts) ∧
      Test.Drawn 1 suite.next suite.tests ∧
      ((RunResult.run {} [] exec List.reverse (some 2) suite.tests).run ()).1.StopsOnCode {}
        suite.tests := by
  intro script tree suite exec
  have replies : exec.Replies := fun _ _ => ⟨_, rfl⟩
  have loaded := loaded_tests_run tree tree.fileSystem 1 ["s.py", "s.py"] {} [] replies
    List.reverse_perm (some 2) ()
  have located : tree.locate "s.py" = .ok ["s.py"] := by
    have named : FileTree.isHere "s.py" = false := by decide +kernel
    have short : ¬ FileTree.nameLimit < "s.py".utf8ByteSize := by decide
    have parts : pathNames "s.py" = ["s.py"] := by decide +kernel
    have relative : isAbsolute "s.py" = false := by decide +kernel
    simp [FileTree.locate, FileTree.start, FileTree.walk, FileTree.isDirectoryAt, FileTree.at?,
      Except.map, tree, named, short, parts, relative]
  have opened : openScript tree "s.py" = .ok script := by
    simp [openScript, openFile, FileTree.read, located, FileTree.at?, tree]
  have named : pathExtension "s.py" = Suite.scriptExtension := by decide +kernel
  have tidy : tidyPath "s.py" = "s.py" := by decide +kernel
  have ids : suite.tests.map Test.id = [2, 4] := by
    simp only [suite, Suite.load, Suite.loadFile, named, if_true, tidy, runScriptFile, opened]
    decide +kernel
  exact ⟨ids, replies, List.reverse_perm, loaded.1, (loaded.2 suite.tests (.refl _)).1⟩

end TestBench
