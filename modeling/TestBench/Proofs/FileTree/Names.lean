import TestBench.Suite.Load

/-! The names of paths. A tidy path is made of the names of a path and has no other characters but
those that paths need; a path of one name is tidy as it is, and leads to an entry of the working
directory. -/
namespace TestBench

theorem mem_of_mem_pathParts {cs part : List Char} {c : Char} (listed : part ∈ pathParts cs)
    (mem : c ∈ part) : c ∈ cs := by
  induction cs generalizing part with
  | nil =>
    rw [pathParts, List.mem_singleton] at listed
    rwa [listed] at mem
  | cons d cs ih =>
    rw [pathParts] at listed
    split at listed
    · rcases List.mem_cons.mp listed with rfl | listed
      · cases mem
      · exact List.mem_cons_of_mem d (ih listed mem)
    · split at listed
      · rename_i empty
        exact absurd empty (pathParts_ne_nil cs)
      · rename_i first parts cut
        rcases List.mem_cons.mp listed with rfl | listed
        · rcases List.mem_cons.mp mem with rfl | mem
          · exact List.mem_cons_self
          · exact List.mem_cons_of_mem d (ih (cut ▸ List.mem_cons_self) mem)
        · exact List.mem_cons_of_mem d (ih (cut ▸ List.mem_cons_of_mem _ listed) mem)

theorem mem_intercalate {sep : List Char} {parts : List (List Char)} {c : Char}
    (mem : c ∈ sep.intercalate parts) : c ∈ sep ∨ ∃ part ∈ parts, c ∈ part := by
  induction parts with
  | nil => cases mem
  | cons part parts ih =>
    cases parts with
    | nil => exact .inr ⟨part, List.mem_cons_self, by simpa using mem⟩
    | cons next parts =>
      rw [List.intercalate_cons_cons, List.append_assoc, List.mem_append, List.mem_append] at mem
      rcases mem with mem | mem | mem
      · exact .inr ⟨part, List.mem_cons_self, mem⟩
      · exact .inl mem
      · rcases ih mem with mem | ⟨other, listed, mem⟩
        · exact .inl mem
        · exact .inr ⟨other, List.mem_cons_of_mem _ listed, mem⟩

theorem mem_of_mem_tidyPath {path : String} {c : Char} (mem : c ∈ (tidyPath path).toList) :
    c ∈ path.toList ∨ c = '/' ∨ c = '.' := by
  unfold tidyPath at mem
  dsimp only at mem
  split at mem
  · exact .inr (.inr (by simpa using mem))
  · rw [String.toList_append, List.mem_append, String.toList_intercalate] at mem
    rcases mem with mem | mem
    · refine .inr (.inl ?_)
      unfold rootText at mem
      split at mem <;> simp_all
    · rcases mem_intercalate mem with mem | ⟨part, listed, mem⟩
      · exact .inr (.inl (by simpa using mem))
      · simp only [tidyNames, pathNames, List.mem_map, List.mem_filter] at listed
        obtain ⟨name, ⟨⟨cs, listed, rfl⟩, -⟩, rfl⟩ := listed
        rw [String.toList_ofList] at mem
        exact .inl (mem_of_mem_pathParts listed mem)

/-- A name that an entry of a directory can have, as long as names may be. -/
structure ProperName (name : String) : Prop where
  whole : '/' ∉ name.toList
  visible : name.toList.contains '\x00' = false
  entry : FileTree.isHere name = false ∧ (name == "..") = false
  short : name.utf8ByteSize ≤ FileTree.nameLimit

namespace ProperName

variable {name : String} (proper : ProperName name)
include proper

theorem isEmpty_eq : name.isEmpty = false := by
  have entry := proper.entry.1
  rw [FileTree.isHere, Bool.or_eq_false_iff] at entry
  exact entry.1

theorem pathNames_eq : pathNames name = [name] := by
  simp [pathNames, pathParts_eq_singleton proper.whole]

theorem head_ne : name.toList.head? ≠ some '/' := fun slash =>
  proper.whole (List.mem_of_head? slash)

theorem tidyPath_eq : tidyPath name = name := by
  have root : rootText name = "" := by
    have head := proper.head_ne
    unfold rootText
    split <;> simp_all
  have text : tidyPath name = if name.isEmpty then "." else name := by
    simp [tidyPath, tidyNames, root, proper.pathNames_eq, proper.entry.1]
  rw [text, proper.isEmpty_eq]
  rfl

theorem isAbsolute_eq : isAbsolute name = false := by
  simp [isAbsolute, proper.head_ne]

variable {tree : FileTree} (here : tree.isDirectoryAt tree.workingDirectory = true)
include here

theorem locate_eq {content : Content}
    (found : tree.at? (tree.workingDirectory ++ [name]) = some (.file content)) :
    tree.locate name = .ok (tree.workingDirectory ++ [name]) := by
  have short : ¬ FileTree.nameLimit < name.utf8ByteSize := Nat.not_lt.mpr proper.short
  rw [FileTree.locate_eq proper.isEmpty_eq, proper.pathNames_eq]
  simp [FileTree.start, FileTree.walk, Except.map, proper.isAbsolute_eq, proper.entry, short, here,
    found]

theorem locate_of_absent (absent : tree.at? (tree.workingDirectory ++ [name]) = none) :
    tree.locate name = .error .noEntry := by
  have short : ¬ FileTree.nameLimit < name.utf8ByteSize := Nat.not_lt.mpr proper.short
  rw [FileTree.locate_eq proper.isEmpty_eq, proper.pathNames_eq]
  simp [FileTree.start, FileTree.walk, Except.map, proper.isAbsolute_eq, proper.entry, short, here,
    absent]

theorem openFile_eq {content : Content}
    (found : tree.at? (tree.workingDirectory ++ [name]) = some (.file content)) :
    openFile tree name = .ok content := by
  simp only [openFile, proper.visible, FileTree.read, proper.locate_eq here found, found]
  rfl

theorem openFile_of_absent (absent : tree.at? (tree.workingDirectory ++ [name]) = none) :
    openFile tree name = .error (.file ⟨.noEntry, name⟩) := by
  simp only [openFile, proper.visible, FileTree.read, proper.locate_of_absent here absent]
  rfl

end ProperName

end TestBench
