import Mathlib.Data.List.Forall2
import TestBench.Directory.Table
import TestBench.Line.Reading
import TestBench.Proofs.Directory.Leaves
import TestBench.Proofs.Line.Classify

/-! Leaf directories on their way through the flat lines. A leaf is pasted in front of the other
fields of its line, and the line is read again: this keeps the leaf exactly if its path holds no bar
and does not make the line a comment. -/
namespace TestBench

def Fields.withPath (f : Fields) (path : String) : Fields :=
  { f with path := path.toList }

/-- The tests of some fields, numbered in order. -/
def Test.numbered (next : Int) (fs : List Fields) : List Test :=
  fs.mapIdx fun i f => .ofFields (next + i) f

theorem numbered_cons (next : Int) (f : Fields) (fs : List Fields) :
    Test.numbered next (f :: fs) = .ofFields next f :: Test.numbered (next + 1) fs := by
  have shift (i : Nat) : next + ((i + 1 : Nat) : Int) = next + 1 + i := by omega
  simp only [Test.numbered, List.mapIdx_cons, shift, Int.natCast_zero, Int.add_zero]

theorem numbered_append (next : Int) (fs gs : List Fields) :
    Test.numbered next (fs ++ gs) =
      Test.numbered next fs ++ Test.numbered (next + fs.length) gs := by
  have shift (i : Nat) : next + ((i + fs.length : Nat) : Int) = next + fs.length + i := by omega
  simp only [Test.numbered, List.mapIdx_append, shift]

theorem expected_ofFields (id : Int) {f : Fields} {o : Outcome}
    (named : f.expected = o.name.toList) : (Test.ofFields id f).expected = o := by
  rw [Test.ofFields, named, String.ofList_toList, ofName?_eq_some_iff.mpr rfl, Option.getD_some]

/-- A flat line that is read as a test with the fields. -/
structure Line.Reads (line : String) (f : Fields) : Prop where
  kept : isSkip (content line) = false
  fields : Fields.ofText? (content line) = some f
  proper : isExpectation f.expected = true

theorem ofLine_eq_ok_iff {id : Int} {origin : Origin} {line : String} {t : Test} :
    Test.ofLine id origin line = .ok t ↔
      ∃ f, Fields.ofText? (Line.content line) = some f ∧ Line.isExpectation f.expected = true ∧
        t = .ofFields id f := by
  simp only [Test.ofLine]
  cases Fields.ofText? (Line.content line) with
  | none => simp
  | some f =>
    simp only [Option.some.injEq, exists_eq_left']
    split
    · rename_i proper
      simp only [proper, true_and, Except.ok.injEq, eq_comm]
    · rename_i improper
      simp [improper]

theorem reads_literal {line text : String} (h : Line.ofText line = .literal text) :
    ∃ f, Fields.ofText? (Line.content line) = some f ∧ Line.Reads text f := by
  obtain ⟨kept, rfl, f, read, proper⟩ := Line.ofText_literal h
  have same : Line.content (String.ofList (Line.content line)) = Line.content line := by
    rw [Line.content, String.toList_ofList, Line.trimEnd_content]
  exact ⟨f, read, by rwa [same], by rwa [same], proper⟩

section Leaves

variable {f : Fields}

theorem content_leafLine (trimmed : Text.trimEnd f.toText = f.toText) (leaf : String) :
    Line.content (Line.leafLine (String.ofList f.rest) leaf) = (f.withPath leaf).toText := by
  rw [Fields.toText_eq, Text.trimEnd_append_cons (by decide)] at trimmed
  have rest : Text.trimEnd f.rest = f.rest := by simpa using trimmed
  have pasted : (Line.leafLine (String.ofList f.rest) leaf).toList =
      leaf.toList ++ '|' :: f.rest := by
    simp [Line.leafLine]
  rw [Line.content, pasted, Text.trimEnd_append_cons (by decide), rest, Fields.toText_eq]
  rfl

theorem isSkip_leafLine (trimmed : Text.trimEnd f.toText = f.toText) (leaf : String) :
    Line.isSkip (Line.content (Line.leafLine (String.ofList f.rest) leaf)) = true ↔
      Line.IsComment (f.withPath leaf).toText := by
  rw [content_leafLine trimmed, Line.isSkip_of_bar (by simp [Fields.toText])]

theorem reads_leaves (valid : f.Valid) (trimmed : Text.trimEnd f.toText = f.toText)
    (proper : Line.isExpectation f.expected = true) {leaves : List String}
    (named : ∀ leaf ∈ leaves, leaf ≠ "")
    (kept : ∀ leaf ∈ leaves, '|' ∉ leaf.toList ∧ ¬ Line.IsComment (f.withPath leaf).toText) :
    List.Forall₂ Line.Reads (leaves.map (Line.leafLine (String.ofList f.rest)))
      (leaves.map f.withPath) := by
  rw [List.forall₂_map_left_iff, List.forall₂_map_right_iff, List.forall₂_same]
  intro leaf hl
  constructor
  · rw [← Bool.not_eq_true, isSkip_leafLine trimmed]
    exact (kept leaf hl).2
  · rw [content_leafLine trimmed]
    exact Fields.ofText?_toText
      (Fields.valid_path valid (by simpa using named leaf hl) (kept leaf hl).1)
  · exact proper

end Leaves

namespace Reading

variable {source : Option String}

variable (source) in
theorem length_tests_le (k : Nat) (next : Int) (lines : List String) :
    (runFrom source k next lines).tests.length ≤ lines.length := by
  induction lines generalizing k next with
  | nil => exact Nat.le_refl _
  | cons line lines ih =>
    simp only [runFrom, List.length_cons]
    split
    · exact Nat.le_succ_of_le (ih (k + 1) next)
    · split
      · exact Nat.zero_le _
      · exact Nat.succ_le_succ (ih (k + 1) (next + 1))

theorem runFrom_of_reads {k : Nat} {next : Int} {lines : List String} {fs : List Fields}
    (h : List.Forall₂ Line.Reads lines fs) :
    runFrom source k next lines = ⟨Test.numbered next fs, next + fs.length, none⟩ := by
  induction h generalizing k next with
  | nil => simp [runFrom, Test.numbered]
  | @cons line f lines fs reads _ ih =>
    have read : Test.ofLine next ⟨source, some k⟩ line = .ok (.ofFields next f) :=
      ofLine_eq_ok_iff.mpr ⟨f, reads.fields, reads.proper, rfl⟩
    simp only [runFrom, reads.kept, Bool.false_eq_true, if_false, read, ih, numbered_cons,
      List.length_cons]
    congr 1
    omega

variable (source) in
/-- The lines of leaves are read as one test for each leaf exactly if no leaf holds a bar and none
makes its line a comment. -/
theorem runFrom_leaves_iff {f : Fields} (valid : f.Valid)
    (trimmed : Text.trimEnd f.toText = f.toText) (proper : Line.isExpectation f.expected = true)
    {leaves : List String} (named : ∀ leaf ∈ leaves, leaf ≠ "") (k : Nat) (next : Int) :
    runFrom source k next (leaves.map (Line.leafLine (String.ofList f.rest))) =
        ⟨Test.numbered next (leaves.map f.withPath), next + leaves.length, none⟩ ↔
      ∀ leaf ∈ leaves, '|' ∉ leaf.toList ∧ ¬ Line.IsComment (f.withPath leaf).toText := by
  constructor
  · intro h
    induction leaves generalizing k next with
    | nil => simp
    | cons leaf leaves ih =>
      simp only [List.map_cons, runFrom] at h
      split at h
      · -- a line passed over leaves one test too few
        have few := length_tests_le source (k + 1) next
          (leaves.map (Line.leafLine (String.ofList f.rest)))
        rw [h] at few
        simp only [Test.numbered, List.length_mapIdx, List.length_cons, List.length_map] at few
        omega
      · rename_i kept
        rw [isSkip_leafLine trimmed] at kept
        split at h
        · cases congrArg failure h
        · rename_i t read
          obtain ⟨g, fields, -, rfl⟩ := ofLine_eq_ok_iff.mp read
          simp only [numbered_cons, Reading.mk.injEq, List.cons.injEq] at h
          obtain ⟨⟨first, others⟩, last, whole⟩ := h
          have path : String.ofList g.path = leaf := by
            simpa [Test.ofFields, Fields.withPath] using congrArg Test.path first
          have free := (Fields.ofText?_eq_some_iff.mp fields).1.path
          rw [← String.toList_ofList (l := g.path), path] at free
          have rest := ih (fun leaf hl => named leaf (List.mem_cons_of_mem _ hl)) (k + 1) (next + 1)
            (by
              rw [← others, ← whole, show next + 1 + (leaves.length : Int) =
                next + ((leaf :: leaves).length : Nat) by simp; omega, ← last])
          exact List.forall_mem_cons.mpr ⟨⟨free, kept⟩, rest⟩
  · intro h
    rw [runFrom_of_reads (reads_leaves valid trimmed proper named h), List.length_map]

end Reading

theorem fields_of_expansion {fs : FileSystem} {line stem directory rest : String}
    {leaves : List String} (command : Line.ofText line = .expansion stem ["expand", directory] rest)
    (scanned : fs.leaves (stem ++ directory) = .ok leaves) :
    ∃ f : Fields, f.Valid ∧ f.toText = Line.content line ∧ Text.trimEnd f.toText = f.toText ∧
      Line.isExpectation f.expected = true ∧ rest = String.ofList f.rest ∧
      ∀ leaf ∈ leaves, leaf ≠ "" := by
  obtain ⟨words, f, read, proper, copied⟩ := Line.ofText_expansion command
  obtain ⟨valid, written⟩ := Fields.ofText?_eq_some_iff.mp read
  have root : stem ++ directory ≠ "" := by
    simp [words directory (by simp)]
  exact ⟨f, valid, written, by rw [written, Line.trimEnd_content], proper, copied,
    FileSystem.leaf_ne_empty root scanned⟩

theorem run_expansion {fs : FileSystem} {source : Option String} {next : Int} {symbols : Symbols}
    {line stem directory rest : String} {leaves : List String}
    (command : Line.ofText line = .expansion stem ["expand", directory] rest)
    (scanned : fs.leaves (stem ++ directory) = .ok leaves) :
    FileReading.run fs source next symbols [line] =
      let here := Reading.runFrom source 1 next (leaves.map (Line.leafLine rest))
      ⟨here.tests, here.next, symbols, here.failure⟩ := by
  simp only [FileReading.run, FileReading.runFrom, command, Line.contribution, scanned, Except.map]
  split
  · rename_i e failed
    rw [failed]
  · rename_i whole
    simp [whole]

theorem numbered_map_withPath (next : Int) (f : Fields) (leaves : List String) :
    Test.numbered next (leaves.map f.withPath) =
      leaves.mapIdx fun i leaf => { Test.ofFields (next + i) f with path := leaf } := by
  apply List.ext_getElem
  · simp [Test.numbered]
  · simp [Test.numbered, Test.ofFields, Fields.withPath]

/-- A command line whose root can be searched gives one test for each leaf, in order, with the
leaf's own path and the other fields of the line, exactly if no leaf holds a bar and none makes its
line a comment. -/
theorem expansion_reads_leaves_iff (fs : FileSystem) (source : Option String) (next : Int)
    (symbols : Symbols) {line stem directory rest : String} {leaves : List String}
    (command : Line.ofText line = .expansion stem ["expand", directory] rest)
    (scanned : fs.leaves (stem ++ directory) = .ok leaves) :
    ∃ (f : Fields) (o : Outcome), f.Valid ∧ f.toText = Line.content line ∧
      f.expected = o.name.toList ∧ o.isExpectation = true ∧
      (FileReading.run fs source next symbols [line] =
          { tests := leaves.mapIdx fun i leaf =>
              ⟨next + i, leaf, String.ofList f.args, o, String.ofList (f.comment.getD []), none⟩
            next := next + leaves.length
            symbols
            failure := none } ↔
        ∀ leaf ∈ leaves,
          '|' ∉ leaf.toList ∧ ¬ Line.IsComment (Line.leafLine rest leaf).toList) := by
  obtain ⟨f, valid, written, trimmed, proper, rfl, nonempty⟩ := fields_of_expansion command scanned
  obtain ⟨o, declarable, named⟩ := Line.isExpectation_iff.mp proper
  refine ⟨f, o, valid, written, named, declarable, ?_⟩
  have outcome : (Outcome.ofName? (String.ofList f.expected)).getD .pass = o :=
    expected_ofFields next named
  have reading := Reading.runFrom_leaves_iff source valid trimmed proper nonempty 1 next
  have pasted (leaf : String) : (Line.leafLine (String.ofList f.rest) leaf).toList =
      (f.withPath leaf).toText := by
    simp [Line.leafLine, Fields.toText_eq, Fields.withPath, Fields.rest]
  simp only [pasted, ← reading, run_expansion command scanned, numbered_map_withPath,
    Test.ofFields, outcome]
  generalize Reading.runFrom source 1 next _ = here
  cases here with
  | mk tests last failure => simp

/-- A leaf without bars, two levels below the root. -/
theorem expansion_reads_leaves_iff_of_nested :
    let table : PathTable := { directories := ["r", "r/a", "r/a/b"] }
    let line := "$(expand r)|x|XFAIL|c"
    Line.ofText line = .expansion "" ["expand", "r"] "x|XFAIL|c" ∧
      table.fileSystem.leaves ("" ++ "r") = .ok ["r/a/b"] ∧
      ∃ (f : Fields) (o : Outcome), f.Valid ∧ f.toText = Line.content line ∧
        f.expected = o.name.toList ∧ o.isExpectation = true ∧
        (FileReading.run table.fileSystem none 5 {} [line] =
            { tests := ["r/a/b"].mapIdx fun i leaf =>
                ⟨5 + i, leaf, String.ofList f.args, o, String.ofList (f.comment.getD []), none⟩
              next := 5 + ["r/a/b"].length
              symbols := {}
              failure := none } ↔
          ∀ leaf ∈ ["r/a/b"],
            '|' ∉ leaf.toList ∧ ¬ Line.IsComment (Line.leafLine "x|XFAIL|c" leaf).toList) := by
  intro table line
  have command : Line.ofText line = .expansion "" ["expand", "r"] "x|XFAIL|c" := by
    decide +kernel
  have scanned : table.fileSystem.leaves ("" ++ "r") = .ok ["r/a/b"] := by
    decide +kernel
  exact ⟨command, scanned, expansion_reads_leaves_iff table.fileSystem none 5 {} command scanned⟩

/-- A leaf below a root that looks like a comment is lost, and a leaf with bars in its name gives a
test of another path, with other arguments and another expectation than its line declares. -/
theorem expansion_loses_leaf :
    let hash : PathTable := { directories := ["#t", "#t/a"] }
    let bars : PathTable := { directories := ["r", "r/a|y|PASS"] }
    Line.ofText "$(expand #t)|x|PASS|c" = .expansion "" ["expand", "#t"] "x|PASS|c" ∧
      hash.fileSystem.leaves ("" ++ "#t") = .ok ["#t/a"] ∧
      FileReading.run hash.fileSystem none 1 {} ["$(expand #t)|x|PASS|c"] = ⟨[], 1, {}, none⟩ ∧
      Line.ofText "$(expand r)|x|XFAIL|c" = .expansion "" ["expand", "r"] "x|XFAIL|c" ∧
      bars.fileSystem.leaves ("" ++ "r") = .ok ["r/a|y|PASS"] ∧
      FileReading.run bars.fileSystem none 1 {} ["$(expand r)|x|XFAIL|c"] =
        ⟨[⟨1, "r/a", "y", .pass, "x|XFAIL|c", none⟩], 2, {}, none⟩ := by
  decide +kernel

end TestBench
