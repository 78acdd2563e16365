import TestBench.Failure

/-! What a search for tests asks of a file system, and which entries of a directory it enters: the
directories that are no links and whose names do not start with a dot. Directories nest to a finite
depth. This is part of the type `FileSystem`, as a height that falls from a directory to each one
entered from it, so that a search ends. -/
namespace TestBench

def joinPath (path name : String) : String :=
  if path.isEmpty ∨ path.toList.getLast? = some '/' then path ++ name else path ++ "/" ++ name

structure Lookup where
  /-- Whether the path leads to a directory, through links or not. -/
  isDirectory : String → Bool
  /-- Whether the path itself is a link. -/
  isLink : String → Bool
  list : String → Except String (List String)

namespace Lookup

def isHidden (name : String) : Bool :=
  name.toList.head? == some '.'

def enters (fs : Lookup) (path name : String) : Bool :=
  !isHidden name && fs.isDirectory (joinPath path name) && !fs.isLink (joinPath path name)

end Lookup

/-- Lookups in a file system whose directories nest to a finite depth. -/
structure FileSystem extends Lookup where
  height : String → Nat
  height_lt : ∀ {path names name}, list path = .ok names → name ∈ names →
    toLookup.enters path name = true → height (joinPath path name) < height path

namespace FileSystem

def sortNames (names : List String) : List String :=
  names.mergeSort fun a b => decide (a ≤ b)

def subdirectories (fs : FileSystem) (path : String) : Except Failure (List String) :=
  match fs.list path with
  | .error reason => .error (.unlistable path reason)
  | .ok names => .ok (((sortNames names).filter (fs.enters path)).map (joinPath path))

theorem height_subdirectory {fs : FileSystem} {path child : String} {children : List String}
    (h : fs.subdirectories path = .ok children) (hc : child ∈ children) :
    fs.height child < fs.height path := by
  unfold subdirectories at h
  split at h
  · cases h
  · rename_i names hn
    cases h
    simp only [List.mem_map, List.mem_filter] at hc
    obtain ⟨name, ⟨hm, he⟩, rfl⟩ := hc
    exact fs.height_lt hn (List.mem_mergeSort.mp hm) he

end FileSystem

end TestBench
