import TestBench.Directory.Basic

/-! The tests of a suite live in leaf directories: those that a search enters and that hold no
directory to enter. The search is depth first, in the order of names. -/
namespace TestBench.FileSystem

/-- The leaf directories at or below a directory. The first directory that cannot be listed ends
the search. -/
def leavesBelow (fs : FileSystem) (path : String) : Except Failure (List String) :=
  match h : fs.subdirectories path with
  | .error e => .error e
  | .ok [] => .ok [path]
  | .ok (child :: children) => do
    let found ← (child :: children).attach.mapM fun ⟨d, hd⟩ =>
      have : fs.height d < fs.height path := height_subdirectory h hd
      fs.leavesBelow d
    return found.flatten
termination_by fs.height path

/-- The leaf directories at or below a root, which may be a link or hidden itself. -/
def leaves (fs : FileSystem) (root : String) : Except Failure (List String) :=
  if fs.isDirectory root then fs.leavesBelow root else .error (.notDirectory root)

end TestBench.FileSystem
