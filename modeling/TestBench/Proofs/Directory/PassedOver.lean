import TestBench.Proofs.Directory.Unlistable

/-! What a search passes over has no influence on it: not on the leaves it finds, and not on the
directory it fails at. Two file systems are compared that have some paths in common. The other
entries of common directories, in either of them, are files, links or start with a dot; nothing is
asked of what lies below them. -/
namespace TestBench

theorem mapM_congr_of_mem {α β : Type} {f g : α → Except Failure β} {xs : List α}
    (same : ∀ x ∈ xs, f x = g x) : xs.mapM f = xs.mapM g := by
  induction xs with
  | nil => rfl
  | cons x xs ih =>
    obtain ⟨first, others⟩ := List.forall_mem_cons.mp same
    rw [List.mapM_cons, List.mapM_cons, first, ih others]

namespace Lookup

/-- `name` starts with a dot, leads to no directory, or is a link. -/
def PassedOver (fs : Lookup) (path name : String) : Prop :=
  name.toList.head? = some '.' ∨ fs.isDirectory (joinPath path name) = false ∨
    fs.isLink (joinPath path name) = true

/-- What directories among some paths list besides these paths is passed over. -/
def OthersPassedOver (fs : Lookup) (common : Set String) : Prop :=
  ∀ path ∈ common, ∀ names, fs.list path = .ok names →
    ∀ name ∈ names, joinPath path name ∉ common → fs.PassedOver path name

/-- Two file systems that differ only in the order of names and in what is passed over. -/
structure DifferInPassedOver (fs gs : Lookup) (common : Set String) : Prop where
  isDirectory : ∀ path ∈ common, fs.isDirectory path = gs.isDirectory path
  isLink : ∀ path ∈ common, fs.isLink path = gs.isLink path
  unlistable : ∀ path ∈ common, ∀ reason,
    fs.list path = .error reason ↔ gs.list path = .error reason
  names : ∀ path ∈ common, ∀ xs ys, fs.list path = .ok xs → gs.list path = .ok ys →
    ∀ name, joinPath path name ∈ common → (name ∈ xs ↔ name ∈ ys)
  left : fs.OthersPassedOver common
  right : gs.OthersPassedOver common

variable {fs gs : Lookup} {common : Set String} {path name : String}

theorem Eligible.not_passedOver (eligible : fs.Eligible path name) : ¬ fs.PassedOver path name := by
  rintro (hidden | file | link)
  · exact eligible.visible hidden
  · rw [eligible.directory] at file
    cases file
  · rw [eligible.unlinked] at link
    cases link

theorem Eligible.mem_common (eligible : fs.Eligible path name) (others : fs.OthersPassedOver common)
    (here : path ∈ common) : joinPath path name ∈ common := by
  obtain ⟨names, listed, mem⟩ := eligible.listed
  by_contra outside
  exact eligible.not_passedOver (others path here names listed name mem outside)

namespace DifferInPassedOver

theorem symm (differ : fs.DifferInPassedOver gs common) : gs.DifferInPassedOver fs common where
  isDirectory path here := (differ.isDirectory path here).symm
  isLink path here := (differ.isLink path here).symm
  unlistable path here reason := (differ.unlistable path here reason).symm
  names path here xs ys listed other name inside :=
    (differ.names path here ys xs other listed name inside).symm
  left := differ.right
  right := differ.left

variable (differ : fs.DifferInPassedOver gs common) (here : path ∈ common)
include differ here

theorem listed {xs : List String} (listed : fs.list path = .ok xs) :
    ∃ ys, gs.list path = .ok ys := by
  cases other : gs.list path with
  | ok ys => exact ⟨ys, rfl⟩
  | error reason =>
    rw [(differ.unlistable path here reason).mpr other] at listed
    cases listed

theorem eligible_of_eligible (eligible : fs.Eligible path name) : gs.Eligible path name := by
  have inside := eligible.mem_common differ.left here
  obtain ⟨xs, listed, mem⟩ := eligible.listed
  obtain ⟨ys, other⟩ := differ.listed here listed
  refine ⟨⟨ys, other, (differ.names path here xs ys listed other name inside).mp mem⟩,
    eligible.visible, ?_, ?_⟩
  · rw [← differ.isDirectory _ inside]
    exact eligible.directory
  · rw [← differ.isLink _ inside]
    exact eligible.unlinked

theorem eligible_iff : fs.Eligible path name ↔ gs.Eligible path name :=
  ⟨differ.eligible_of_eligible here, differ.symm.eligible_of_eligible here⟩

end DifferInPassedOver

section Checked

/-- What the two file systems list at a common path differs only in what is passed over. -/
def SameListing (fs gs : Lookup) (common : List String) (path : String) : Prop :=
  match fs.list path, gs.list path with
  | .ok xs, .ok ys =>
    (∀ name ∈ xs ++ ys, joinPath path name ∈ common → name ∈ xs ∧ name ∈ ys) ∧
      (∀ name ∈ xs, joinPath path name ∉ common → fs.PassedOver path name) ∧
      ∀ name ∈ ys, joinPath path name ∉ common → gs.PassedOver path name
  | .error reason, .error other => reason = other
  | _, _ => False

instance decidablePassedOver (fs : Lookup) (path name : String) :
    Decidable (fs.PassedOver path name) :=
  inferInstanceAs (Decidable (_ ∨ _ ∨ _))

instance decidableSameListing (fs gs : Lookup) (common : List String) (path : String) :
    Decidable (fs.SameListing gs common path) := by
  unfold SameListing
  split <;> infer_instance

theorem differInPassedOver_of_sameListing {common : List String}
    (kinds : ∀ path ∈ common,
      fs.isDirectory path = gs.isDirectory path ∧ fs.isLink path = gs.isLink path)
    (listings : ∀ path ∈ common, fs.SameListing gs common path) :
    fs.DifferInPassedOver gs {path | path ∈ common} := by
  constructor
  · exact fun path here => (kinds path here).1
  · exact fun path here => (kinds path here).2
  · intro path here reason
    have same := listings path here
    unfold SameListing at same
    split at same
    · simp_all
    · simp_all
    · exact same.elim
  · intro path here xs ys listed other name inside
    have same := listings path here
    rw [SameListing, listed, other] at same
    constructor
    · exact fun mem => (same.1 name (List.mem_append_left _ mem) inside).2
    · exact fun mem => (same.1 name (List.mem_append_right _ mem) inside).1
  · intro path here xs listed name mem outside
    have same := listings path here
    rw [SameListing, listed] at same
    split at same
    · rename_i found _
      cases found
      exact same.2.1 name mem outside
    · rename_i found _
      cases found
    · exact same.elim
  · intro path here ys listed name mem outside
    have same := listings path here
    rw [SameListing, listed] at same
    split at same
    · rename_i found
      cases found
      exact same.2.2 name mem outside
    · rename_i found
      cases found
    · exact same.elim

end Checked

end Lookup

namespace FileSystem

variable {fs gs : FileSystem} {common : Set String} {path : String}

theorem entered_eq (proper : fs.ProperListings) (gs_proper : gs.ProperListings)
    (differ : fs.DifferInPassedOver gs.toLookup common) (here : path ∈ common)
    {xs ys : List String} (listed : fs.list path = .ok xs) (other : gs.list path = .ok ys) :
    fs.entered path xs = gs.entered path ys := by
  refine List.Pairwise.eq_of_mem_iff (entered_increasing fs path (proper path xs listed).1)
    (entered_increasing gs path (gs_proper path ys other).1) fun name => ?_
  rw [mem_entered listed, mem_entered other]
  exact differ.eligible_iff here

theorem leavesBelow_eq (proper : fs.ProperListings) (gs_proper : gs.ProperListings)
    (differ : fs.DifferInPassedOver gs.toLookup common) (here : path ∈ common) :
    fs.leavesBelow path = gs.leavesBelow path := by
  induction path using descent_induction fs with
  | step path ih =>
    cases listed : fs.list path with
    | error reason =>
      have other := (differ.unlistable path here reason).mp listed
      rw [leavesBelow_unlistable listed, leavesBelow_unlistable other]
    | ok xs =>
      obtain ⟨ys, other⟩ := differ.listed here listed
      rw [leavesBelow_listed listed, leavesBelow_listed other,
        ← entered_eq proper gs_proper differ here listed other]
      have inner : ∀ name ∈ fs.entered path xs,
          fs.leavesBelow (joinPath path name) = gs.leavesBelow (joinPath path name) := by
        intro name entry
        have eligible := (mem_entered listed).mp entry
        exact ih name eligible (eligible.mem_common differ.left here)
      rw [mapM_congr_of_mem inner]

/-- A search of a file system with proper listings and finitely many directories fails at the first
directory that it comes to and cannot list, if there is one, and otherwise only at a root that is no
directory. It comes out the same if the file system differs in the order of names and in what is
passed over. -/
theorem search_fails_exactly (fs : Lookup) (proper : fs.ProperListings)
    (finite : fs.FinitelyBelow) :
    (∃ bounded : FileSystem, bounded.toLookup = fs) ∧
      ∀ bounded : FileSystem, bounded.toLookup = fs → ∀ root,
        ((∃ e, bounded.leaves root = .error e) ↔
          fs.isDirectory root = false ∨ ∃ names reason, fs.Blocked root names reason) ∧
        (fs.isDirectory root = false → bounded.leaves root = .error (.notDirectory root)) ∧
        (fs.isDirectory root = true → ∀ e, bounded.leaves root = .error e ↔
          ∃ names reason, fs.FirstBlocked root names reason ∧
            e = .unlistable (joinNames root names) reason) ∧
        ∀ (other : FileSystem) (common : Set String), other.ProperListings →
          fs.DifferInPassedOver other.toLookup common → root ∈ common →
          other.leaves root = bounded.leaves root := by
  refine ⟨finite.exists_fileSystem proper, ?_⟩
  rintro bounded rfl root
  have missing (no : bounded.isDirectory root = false) :
      bounded.leaves root = .error (.notDirectory root) := by
    rw [leaves, if_neg (by simp [no])]
  have searched (yes : bounded.isDirectory root = true) :
      bounded.leaves root = bounded.leavesBelow root := by
    rw [leaves, if_pos yes]
  refine ⟨?_, missing, ?_, ?_⟩
  · cases directory : bounded.isDirectory root with
    | false => simp [missing directory]
    | true => simp [searched directory, leavesBelow_fails_iff proper]
  · intro directory e
    rw [searched directory]
    exact leavesBelow_error_iff proper
  · intro other common other_proper differ inside
    unfold leaves
    rw [differ.isDirectory root inside, leavesBelow_eq proper other_proper differ inside]

end FileSystem

/-- The second file system has a hidden directory that cannot be listed, a link and a file besides,
and lists the names in another order. Both searches fail at `r/a/z`, and not at `r/b`. -/
theorem search_fails_exactly_of_hidden_trouble :
    let plain : PathTable :=
      { directories := ["r", "r/b", "r/a", "r/a/z"]
        broken := [("r/b", "no"), ("r/a/z", "denied")] }
    let messy : PathTable :=
      { directories := ["r/.git", "r/a", "r", "r/.git/x", "r/a/z", "r/b"]
        links := ["r/l"]
        files := ["r/f"]
        broken := [("r/.git", "secret"), ("r/b", "no"), ("r/a/z", "denied")] }
    let common : Set String := {"r", "r/a", "r/a/z", "r/b"}
    plain.lookup.ProperListings ∧ plain.lookup.FinitelyBelow ∧ messy.lookup.ProperListings ∧
      plain.lookup.DifferInPassedOver messy.lookup common ∧ "r" ∈ common ∧
      plain.lookup.isDirectory "r" = true ∧
      messy.fileSystem.leaves "r" = .error (.unlistable "r/a/z" "denied") ∧
      ∃ names, plain.lookup.FirstBlocked "r" names "denied" ∧ joinNames "r" names = "r/a/z" := by
  intro plain messy common
  have proper : plain.lookup.ProperListings := PathTable.properListings (by decide +kernel)
  have messy_proper : messy.lookup.ProperListings := PathTable.properListings (by decide +kernel)
  have finite : plain.lookup.FinitelyBelow := plain.fileSystem.finitelyBelow
  have directory : plain.lookup.isDirectory "r" = true := by decide +kernel
  have listed_common : common = {path | path ∈ ["r", "r/a", "r/a/z", "r/b"]} := by
    ext path
    simp [common]
  have differ : plain.lookup.DifferInPassedOver messy.lookup common := by
    rw [listed_common]
    exact Lookup.differInPassedOver_of_sameListing (by decide +kernel) (by decide +kernel)
  have searched : plain.fileSystem.leaves "r" = .error (.unlistable "r/a/z" "denied") := by
    have top : plain.fileSystem.subdirectories "r" = .ok ["r/a", "r/b"] := by cbv
    have inner : plain.fileSystem.subdirectories "r/a" = .ok ["r/a/z"] := by cbv
    have below : plain.fileSystem.leavesBelow "r/a/z" = .error (.unlistable "r/a/z" "denied") :=
      FileSystem.leavesBelow_unlistable (by cbv)
    have entered : plain.fileSystem.isDirectory "r" = true := directory
    rw [FileSystem.leaves, if_pos entered, FileSystem.leavesBelow_node top]
    simp only [List.mapM_cons, FileSystem.leavesBelow_node inner, below]
    rfl
  obtain ⟨-, -, first, same⟩ :=
    (FileSystem.search_fails_exactly plain.lookup proper finite).2 plain.fileSystem rfl "r"
  obtain ⟨names, reason, here, told⟩ := (first directory _).mp searched
  obtain ⟨at_path, rfl⟩ := Failure.unlistable.inj told
  exact ⟨proper, finite, messy_proper, differ, by simp [common], directory,
    (same messy.fileSystem common messy_proper differ (by simp [common])).trans searched,
    names, here, at_path.symm⟩

end TestBench
