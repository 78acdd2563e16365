import TestBench.Proofs.Line.Expansion
import TestBench.Proofs.Script.Growth
import TestBench.Suite.Load

/-! Loading draws on one sequence of ids. This holds of every reader in every file, whatever stops
it, and passes from one file to the next through the id that comes next. -/
namespace TestBench

theorem drawn_reading (source : Option String) (k : Nat) (next : Int) (lines : List String) :
    Test.Drawn next (Reading.runFrom source k next lines).next
      (Reading.runFrom source k next lines).tests := by
  induction lines generalizing k next with
  | nil => exact .nil (Int.le_refl _)
  | cons line lines ih =>
    simp only [Reading.runFrom]
    split
    · exact ih (k + 1) next
    · split
      · exact .nil (Int.le_refl _)
      · rename_i t read
        obtain ⟨f, -, proper, rfl⟩ := ofLine_eq_ok_iff.mp read
        obtain ⟨o, declarable, named⟩ := Line.isExpectation_iff.mp proper
        refine .cons rfl ?_ rfl (ih (k + 1) (next + 1))
        rwa [expected_ofFields next named]

theorem drawn_fileReading (fs : FileSystem) (source : Option String) (n k : Nat) (next : Int)
    (symbols : Symbols) (lines : List String) :
    Test.Drawn next (FileReading.runFrom fs source n k next symbols lines).next
      (FileReading.runFrom fs source n k next symbols lines).tests := by
  induction lines generalizing n k next symbols with
  | nil => exact .nil (Int.le_refl _)
  | cons line lines ih =>
    simp only [FileReading.runFrom]
    split
    · exact .nil (Int.le_refl _)
    · exact ih _ _ _ _
    · rename_i flat _
      have here := drawn_reading source k next flat
      split
      · exact here
      · exact here.append (ih _ _ _ _)

theorem drawn_textFile (tree : FileTree) (fs : FileSystem) (path : String) (next : Int)
    (symbols : Symbols) :
    Test.Drawn next (readTextFile tree fs path next symbols).next
      (readTextFile tree fs path next symbols).tests := by
  unfold readTextFile
  split
  · exact .nil (Int.le_refl _)
  · exact drawn_fileReading fs _ 1 1 next symbols _

theorem drawn_scriptFile {tree : FileTree} {fs : FileSystem} {path : String} {next : Int}
    {r : ScriptResult} (h : runScriptFile tree fs path next = .ok r) :
    Test.Drawn next r.next r.tests := by
  unfold runScriptFile at h
  split at h
  · cases h
  · cases h
    exact drawn_script fs path next _

namespace Suite

theorem drawn_loadFile (tree : FileTree) (fs : FileSystem) (next : Int) (file : String) :
    Test.Drawn next (loadFile tree fs next file).next (loadFile tree fs next file).tests := by
  simp only [loadFile]
  split
  · split
    · exact .nil (Int.le_refl _)
    · rename_i r ran
      have drawn := drawn_scriptFile ran
      split
      · exact .nil drawn.le
      · exact drawn
  · have drawn := drawn_textFile tree fs (tidyPath file) next {}
    generalize readTextFile tree fs (tidyPath file) next {} = r at drawn ⊢
    split
    · exact .nil drawn.le
    · exact drawn

theorem load_nil (tree : FileTree) (fs : FileSystem) (next : Int) :
    load tree fs next [] = { next } := rfl

-- the equation is checked against the first file as it stands, not against what it unfolds to
seal loadFile in
theorem load_cons (tree : FileTree) (fs : FileSystem) (next : Int) (file : String)
    (files : List String) :
    load tree fs next (file :: files) =
      let first := loadFile tree fs next file
      match first.stop with
      | some _ => first
      | none =>
        let rest := load tree fs first.next files
        { rest with
          tests := first.tests ++ rest.tests
          skipped := first.skipped ++ rest.skipped } := rfl

theorem drawn_load (tree : FileTree) (fs : FileSystem) (next : Int) (files : List String) :
    Test.Drawn next (load tree fs next files).next (load tree fs next files).tests := by
  induction files generalizing next with
  | nil => exact .nil (Int.le_refl _)
  | cons file files ih =>
    have first := drawn_loadFile tree fs next file
    rw [load_cons]
    dsimp only
    split
    · exact first
    · exact first.append (ih _)

end Suite

end TestBench
