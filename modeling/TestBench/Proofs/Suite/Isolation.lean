import TestBench.Proofs.Script.Shift
import TestBench.Proofs.Session.Transcript
import TestBench.Proofs.Suite.Stops

/-! Files of a suite are isolated from each other but for the ids of their tests: a loading can be
cut between any two files, and it does the same wherever its ids begin. -/
namespace TestBench

theorem ofLine_shift (next d : Int) (origin : Origin) (line : String) :
    Test.ofLine (next + d) origin line = (Test.ofLine next origin line).map (Test.shift d) := by
  simp only [Test.ofLine]
  split
  · rfl
  · split <;> rfl

theorem reading_shift (source : Option String) (k : Nat) (next d : Int) (lines : List String) :
    Reading.runFrom source k (next + d) lines =
      let r := Reading.runFrom source k next lines
      { r with tests := r.tests.map (Test.shift d), next := r.next + d } := by
  induction lines generalizing k next with
  | nil => rfl
  | cons line lines ih =>
    simp only [Reading.runFrom, ofLine_shift]
    split
    · exact ih (k + 1) next
    · cases Test.ofLine next ⟨source, some k⟩ line with
      | error e => rfl
      | ok t =>
        have rest := ih (k + 1) (next + 1)
        rw [show next + 1 + d = next + d + 1 by omega] at rest
        simp only [Except.map, rest, List.map_cons]

theorem fileReading_shift (fs : FileSystem) (source : Option String) (n k : Nat) (next d : Int)
    (symbols : Symbols) (lines : List String) :
    FileReading.runFrom fs source n k (next + d) symbols lines =
      let r := FileReading.runFrom fs source n k next symbols lines
      { r with tests := r.tests.map (Test.shift d), next := r.next + d } := by
  induction lines generalizing n k next symbols with
  | nil => rfl
  | cons line lines ih =>
    simp only [FileReading.runFrom]
    cases (Line.ofText line).contribution fs ⟨source, some n⟩ with
    | error e => rfl
    | ok contribution =>
      cases contribution with
      | symbol name value => exact ih _ _ _ _
      | lines flat =>
        simp only [reading_shift source k next d flat]
        cases failed : (Reading.runFrom source k next flat).failure with
        | some e => rfl
        | none => simp only [ih, List.map_append]

theorem textFile_shift (tree : FileTree) (fs : FileSystem) (path : String) (next d : Int)
    (symbols : Symbols) :
    readTextFile tree fs path (next + d) symbols =
      let r := readTextFile tree fs path next symbols
      { r with tests := r.tests.map (Test.shift d), next := r.next + d } := by
  unfold readTextFile
  cases openLines tree path with
  | error f => rfl
  | ok stream => simp only [FileReading.run, fileReading_shift]

namespace Suite

def shift (d : Int) (s : Suite) : Suite :=
  { s with tests := s.tests.map (Test.shift d), next := s.next + d }

/-- If the file is a script, it never uses a test that it has declared. -/
def Discards (tree : FileTree) (fs : FileSystem) (file : String) : Prop :=
  pathExtension file = scriptExtension → ∀ script, openScript tree (tidyPath file) = .ok script →
    script.DiscardsTests fs (tidyPath file)

variable {tree : FileTree} {fs : FileSystem}

theorem loadFile_shift {file : String} (discards : Discards tree fs file) (next d : Int) :
    loadFile tree fs (next + d) file = (loadFile tree fs next file).shift d := by
  simp only [loadFile]
  split
  · rename_i named
    unfold runScriptFile
    cases opened : openScript tree (tidyPath file) with
    | error e => rfl
    | ok script =>
      simp only [Script.run_shift (discards named script opened)]
      cases (script.run fs (tidyPath file) next).stop <;> rfl
  · simp only [textFile_shift]
    cases (readTextFile tree fs (tidyPath file) next {}).stop <;> rfl

theorem load_shift {files : List String} (discards : ∀ file ∈ files, Discards tree fs file)
    (next d : Int) : load tree fs (next + d) files = (load tree fs next files).shift d := by
  induction files generalizing next with
  | nil => rfl
  | cons file files ih =>
    obtain ⟨here, later⟩ := List.forall_mem_cons.mp discards
    rw [load_cons, load_cons, loadFile_shift here]
    cases stopped : (loadFile tree fs next file).stop with
    | some e => simp only [shift, stopped]
    | none =>
      have rest : load tree fs ((loadFile tree fs next file).next + d) files = _ := ih later _
      simp only [shift, stopped, rest, List.map_append]

theorem load_append {next : Int} {files : List String} (more : List String)
    (loaded : (load tree fs next files).stop = none) :
    load tree fs next (files ++ more) =
      let first := load tree fs next files
      let rest := load tree fs first.next more
      { rest with
        tests := first.tests ++ rest.tests
        skipped := first.skipped ++ rest.skipped } := by
  induction files generalizing next with
  | nil => rfl
  | cons file files ih =>
    cases here : (loadFile tree fs next file).stop with
    | some e =>
      rw [load_of_stopped files here, here] at loaded
      cases loaded
    | none =>
      rw [(load_goes_on files here).1] at loaded
      simp only [List.cons_append, load_cons, here, ih loaded, List.append_assoc]

/-- After files that can be loaded, more files are loaded as they are by themselves from the id that
comes next; wherever the ids of files that use no test begin, the same is loaded with other ids, or
the same stops the loading. -/
theorem files_are_isolated (tree : FileTree) (fs : FileSystem) (next : Int)
    (files more : List String) :
    let first := load tree fs next files
    (first.stop = none →
      let rest := load tree fs first.next more
      let all := load tree fs next (files ++ more)
      all.tests = first.tests ++ rest.tests ∧ all.stop = rest.stop ∧ all.next = rest.next ∧
        Request.skippedLines all = Request.skippedLines first ++ Request.skippedLines rest) ∧
    ((∀ file ∈ files, Discards tree fs file) → ∀ next',
      let moved := load tree fs next' files
      moved.tests = first.tests.map (Test.shift (next' - next)) ∧ moved.stop = first.stop ∧
        moved.next = first.next + (next' - next) ∧
        Request.skippedLines moved = Request.skippedLines first) := by
  intro first
  constructor
  · intro loaded rest all
    have joined : all = _ := load_append more loaded
    rw [joined]
    exact ⟨rfl, rfl, rfl, by simp only [Request.skippedLines, List.map_append]; rfl⟩
  · intro discards next' moved
    have same : moved = first.shift (next' - next) := by
      have shifted := load_shift discards next (next' - next)
      rwa [show next + (next' - next) = next' by omega] at shifted
    rw [same]
    exact ⟨rfl, rfl, rfl, rfl⟩

/-- A text file, a script that keeps a test but gives the variable another value before it looks it
up, and the text file again. -/
theorem files_are_isolated_of_three :
    let text := "!n=v\na|x|PASS|\n"
    let word (s : String) : Expr := .value (.text s)
    let script : Script :=
      [.test { path := word "b" } (some "u"), .assign "u" (word "c"),
        .test { path := .variable "u", named := [("skip", word "c")] } none]
    let tree : FileTree := { entries :=
      [(["t"], .file (.bytes (Text.encode text.toList))), (["s.py"], .file (.script script))] }
    let fs := tree.fileSystem
    let first := load tree fs 1 ["t", "s.py"]
    let all := load tree fs 1 ["t", "s.py", "t"]
    let moved := load tree fs 10 ["t", "s.py"]
    first.stop = none ∧ (∀ file ∈ ["t", "s.py"], Discards tree fs file) ∧
      first.tests.map Test.id = [1, 2] ∧ first.skipped = ["c"] ∧
      all.tests = first.tests ++ (load tree fs 3 ["t"]).tests ∧
      moved.tests = first.tests.map (Test.shift 9) ∧
      Request.skippedLines moved = Request.skippedLines first := by
  intro text word script tree fs first all moved
  have proper_text : ProperName "t" := by constructor <;> decide +kernel
  have proper_script : ProperName "s.py" := by constructor <;> decide +kernel
  have opened_text : openFile tree "t" = .ok (.bytes (Text.encode text.toList)) :=
    proper_text.openFile_eq (by decide +kernel) rfl
  have opened_script : openScript tree "s.py" = .ok script := by
    have opened : openFile tree "s.py" = .ok (.script script) :=
      proper_script.openFile_eq (by decide +kernel) rfl
    simp only [openScript, opened]
  have text_named : ¬ pathExtension "t" = scriptExtension := by decide +kernel
  have script_named : pathExtension "s.py" = scriptExtension := by decide +kernel
  have discards : ∀ file ∈ ["t", "s.py"], Discards tree fs file := by
    rw [List.forall_mem_cons, List.forall_mem_singleton]
    refine ⟨fun named => absurd named text_named, fun _ s opened next => ?_⟩
    rw [proper_script.tidyPath_eq] at opened ⊢
    rw [opened_script] at opened
    cases opened
    obtain ⟨s₁, s₂, s₃, visits, value⟩ : ∃ s₁ s₂ s₃, script.visits fs "s.py" next =
        [⟨.test { path := word "b" } (some "u"), s₁⟩, ⟨.assign "u" (word "c"), s₂⟩,
          ⟨.test { path := .variable "u", named := [("skip", word "c")] } none, s₃⟩] ∧
        s₃.vars.get? "u" = some (.text "c") := ⟨_, _, _, rfl, rfl⟩
    simp only [visits, List.forall_mem_cons, List.not_mem_nil, false_imp_iff, implies_true,
      and_true]
    refine ⟨?_, ?_, ?_⟩ <;> rintro ⟨name, looked_up, t, holds⟩
    · cases looked_up
    · cases looked_up
    · have only : name = "u" := by
        simpa [Step.reads, Arguments.reads, Expr.reads, Expr.readsEntries, Expr.eval, onward, value,
          word] using looked_up
      rw [only, value] at holds
      cases holds
  have lines : Text.LineStream.ofBytes (Text.encode text.toList) =
      ⟨["!n=v", "a|x|PASS|"], false⟩ := by decide +kernel
  have loaded : first =
      { tests := [⟨1, "a", "x", .pass, "", none⟩, ⟨2, "b", "", .pass, "", none⟩]
        skipped := ["c"]
        next := 3 } := by
    simp only [first, load_cons, load_nil, loadFile, text_named, script_named, if_true, if_false,
      proper_text.tidyPath_eq, proper_script.tidyPath_eq, readTextFile, runScriptFile, openLines,
      opened_text, opened_script, lines]
    rfl
  have isolated := files_are_isolated tree fs 1 ["t", "s.py"] ["t"]
  have goesOn : first.stop = none := by rw [loaded]
  obtain ⟨tests, -⟩ := isolated.1 goesOn
  obtain ⟨shifted, -, -, log⟩ := isolated.2 discards 10
  refine ⟨goesOn, discards, by rw [loaded]; rfl, by rw [loaded], ?_, shifted, log⟩
  have next : first.next = 3 := by rw [loaded]
  rw [← next]
  exact tests

end Suite

end TestBench
