import Mathlib.Data.Set.Card
import Mathlib.Data.Set.Finite.Lattice
import Mathlib.Order.CompletePartialOrder
import TestBench.Proofs.Directory.Joined
import TestBench.Proofs.Directory.Leaves

/-! Ways down from a directory, given by names. They are what a search follows, said without the
search: with finitely many directories to reach it ends, and a directory that has no way on is a
leaf. -/
namespace TestBench

namespace Lookup

/-- `name` is an entry of the directory `path` that starts with no dot and leads to a directory
without being a link. -/
structure Eligible (fs : Lookup) (path name : String) : Prop where
  listed : ∃ names, fs.list path = .ok names ∧ name ∈ names
  visible : name.toList.head? ≠ some '.'
  directory : fs.isDirectory (joinPath path name) = true
  unlinked : fs.isLink (joinPath path name) = false

/-- Each name is eligible in the directory that the names before it lead to. Nothing is asked of the
directory they start from. -/
inductive Descends (fs : Lookup) : String → List String → Prop where
  | here (path : String) : Descends fs path []
  | down {path name : String} {names : List String} (eligible : fs.Eligible path name)
      (rest : Descends fs (joinPath path name) names) : Descends fs path (name :: names)

/-- The names lead to a directory without eligible entries. -/
structure EndsInLeaf (fs : Lookup) (path : String) (names : List String) : Prop where
  descends : fs.Descends path names
  last : ∀ name, ¬ fs.Eligible (joinNames path names) name

/-- Directories list distinct names that entries can have. -/
def ProperListings (fs : Lookup) : Prop :=
  ∀ path names, fs.list path = .ok names → names.Nodup ∧ ∀ name ∈ names, IsEntryName name

/-- The paths that lead down from a path, itself included. -/
def reached (fs : Lookup) (path : String) : Set String :=
  {below | ∃ names, fs.Descends path names ∧ below = joinNames path names}

/-- Finitely many directories lie below each path. -/
def FinitelyBelow (fs : Lookup) : Prop :=
  ∀ path, (fs.reached path).Finite

variable {fs : Lookup} {path name : String} {names xs ys : List String}

theorem enters_iff (listed : fs.list path = .ok names) (mem : name ∈ names) :
    fs.enters path name = true ↔ fs.Eligible path name := by
  simp only [enters, isHidden, Bool.and_eq_true, Bool.not_eq_true', beq_eq_false_iff_ne]
  constructor
  · rintro ⟨⟨visible, directory⟩, unlinked⟩
    exact ⟨⟨names, listed, mem⟩, visible, directory, unlinked⟩
  · intro h
    exact ⟨⟨h.visible, h.directory⟩, h.unlinked⟩

theorem descends_cons :
    fs.Descends path (name :: names) ↔
      fs.Eligible path name ∧ fs.Descends (joinPath path name) names := by
  constructor
  · rintro (_ | ⟨eligible, rest⟩)
    exact ⟨eligible, rest⟩
  · rintro ⟨eligible, rest⟩
    exact .down eligible rest

theorem descends_append :
    fs.Descends path (xs ++ ys) ↔ fs.Descends path xs ∧ fs.Descends (joinNames path xs) ys := by
  induction xs generalizing path with
  | nil => simp [Descends.here]
  | cons x xs ih => simp only [List.cons_append, descends_cons, joinNames_cons, ih, and_assoc]

theorem endsInLeaf_nil : fs.EndsInLeaf path [] ↔ ∀ name, ¬ fs.Eligible path name :=
  ⟨fun h => h.last, fun h => ⟨.here path, h⟩⟩

theorem endsInLeaf_cons :
    fs.EndsInLeaf path (name :: names) ↔
      fs.Eligible path name ∧ fs.EndsInLeaf (joinPath path name) names := by
  constructor
  · rintro ⟨descends, last⟩
    obtain ⟨eligible, rest⟩ := descends_cons.mp descends
    exact ⟨eligible, rest, last⟩
  · rintro ⟨eligible, rest, last⟩
    exact ⟨.down eligible rest, last⟩

theorem EndsInLeaf.append (first : fs.Descends path xs)
    (rest : fs.EndsInLeaf (joinNames path xs) ys) : fs.EndsInLeaf path (xs ++ ys) := by
  refine ⟨descends_append.mpr ⟨first, rest.descends⟩, ?_⟩
  rw [joinNames_append]
  exact rest.last

theorem EndsInLeaf.not_descends_beyond (leaf : fs.EndsInLeaf path xs) :
    ¬ fs.Descends path (xs ++ name :: names) := by
  intro beyond
  obtain ⟨-, rest⟩ := descends_append.mp beyond
  exact leaf.last name (descends_cons.mp rest).1

theorem Descends.directory (descends : fs.Descends path names) :
    joinNames path names = path ∨
      fs.isDirectory (joinNames path names) = true ∧ fs.isLink (joinNames path names) = false := by
  induction descends with
  | here path => exact .inl rfl
  | down eligible rest ih =>
    rw [joinNames_cons]
    rcases ih with same | found
    · rw [same]
      exact .inr ⟨eligible.directory, eligible.unlinked⟩
    · exact .inr found

theorem FinitelyBelow.of_finite
    (finite : {path | fs.isDirectory path = true ∧ fs.isLink path = false}.Finite) :
    fs.FinitelyBelow := by
  intro path
  refine (finite.insert path).subset ?_
  rintro below ⟨names, descends, rfl⟩
  exact descends.directory

section Proper

variable (proper : fs.ProperListings)
include proper

theorem Eligible.isEntryName (eligible : fs.Eligible path name) : IsEntryName name := by
  obtain ⟨listing, listed, mem⟩ := eligible.listed
  exact (proper path listing listed).2 name mem

theorem Descends.isEntryName (descends : fs.Descends path names) :
    ∀ name ∈ names, IsEntryName name := by
  induction descends with
  | here => simp
  | down eligible rest ih => exact List.forall_mem_cons.mpr ⟨eligible.isEntryName proper, ih⟩

theorem reached_ssubset (eligible : fs.Eligible path name) :
    fs.reached (joinPath path name) ⊂ fs.reached path := by
  rw [Set.ssubset_iff_of_subset]
  · -- the path itself is too short to lie below its entry
    refine ⟨path, ⟨[], .here path, rfl⟩, ?_⟩
    rintro ⟨names, -, same⟩
    have longer := length_lt_joinPath path (eligible.isEntryName proper).ne_empty
    have within := (prefix_joinNames (joinPath path name) names).length_le
    rw [← same] at within
    omega
  · rintro below ⟨names, descends, rfl⟩
    exact ⟨name :: names, .down eligible descends, rfl⟩

theorem FinitelyBelow.exists_fileSystem (finite : fs.FinitelyBelow) :
    ∃ bounded : FileSystem, bounded.toLookup = fs := by
  refine ⟨{ toLookup := fs, height := fun path => (fs.reached path).ncard, height_lt := ?_ }, rfl⟩
  intro path names name listed mem enters
  have eligible := (enters_iff listed mem).mp enters
  exact Set.ncard_lt_ncard (reached_ssubset proper eligible) (finite path)

end Proper

end Lookup

namespace FileSystem

variable {fs : FileSystem} {path name : String} {names : List String}

/-- What holds of a directory if it holds of all directories entered from it holds of every path. -/
theorem descent_induction (fs : FileSystem) {P : String → Prop}
    (step : ∀ path, (∀ name, fs.Eligible path name → P (joinPath path name)) → P path)
    (path : String) : P path := by
  induction bound : fs.height path using Nat.strongRecOn generalizing path with
  | ind height ih =>
    apply step
    intro name eligible
    obtain ⟨listing, listed, mem⟩ := eligible.listed
    have enters := (Lookup.enters_iff listed mem).mpr eligible
    exact ih _ (bound ▸ fs.height_lt listed mem enters) _ rfl

theorem exists_leaf (fs : FileSystem) (path : String) : ∃ names, fs.EndsInLeaf path names := by
  induction path using descent_induction fs with
  | step path ih =>
    by_cases inner : ∃ name, fs.Eligible path name
    · obtain ⟨name, eligible⟩ := inner
      obtain ⟨names, leaf⟩ := ih name eligible
      exact ⟨name :: names, Lookup.endsInLeaf_cons.mpr ⟨eligible, leaf⟩⟩
    · exact ⟨[], Lookup.endsInLeaf_nil.mpr fun name eligible => inner ⟨name, eligible⟩⟩

def entered (fs : FileSystem) (path : String) (names : List String) : List String :=
  (sortNames names).filter (fs.enters path)

theorem mem_entered (listed : fs.list path = .ok names) :
    name ∈ fs.entered path names ↔ fs.Eligible path name := by
  simp only [entered, List.mem_filter, sortNames, List.mem_mergeSort]
  constructor
  · rintro ⟨mem, enters⟩
    exact (Lookup.enters_iff listed mem).mp enters
  · intro eligible
    obtain ⟨listing, same, mem⟩ := eligible.listed
    rw [listed] at same
    cases same
    exact ⟨mem, (Lookup.enters_iff listed mem).mpr eligible⟩

theorem entered_increasing (fs : FileSystem) (path : String) (distinct : names.Nodup) :
    (fs.entered path names).Pairwise (· < ·) := by
  apply List.Pairwise.filter
  have sorted : (sortNames names).Pairwise (fun a b => decide (a ≤ b) = true) := by
    apply List.pairwise_mergeSort
    · intro a b c ab bc
      rw [decide_eq_true_eq] at *
      exact String.le_trans ab bc
    · intro a b
      simpa using String.le_total a b
  have apart : (sortNames names).Pairwise (· ≠ ·) :=
    (List.mergeSort_perm names _).nodup_iff.mpr distinct
  refine (sorted.and apart).imp fun {a b} h => ?_
  rw [← String.not_le]
  exact fun back => h.2 (String.le_antisymm (of_decide_eq_true h.1) back)

theorem finitelyBelow (fs : FileSystem) : fs.toLookup.FinitelyBelow := by
  intro path
  induction path using descent_induction fs with
  | step path ih =>
    cases listed : fs.list path with
    | error reason =>
      refine (Set.finite_singleton path).subset ?_
      rintro below ⟨_ | ⟨name, names⟩, descends, rfl⟩
      · rfl
      · obtain ⟨listing, same, -⟩ := (Lookup.descends_cons.mp descends).1.listed
        rw [listed] at same
        cases same
    | ok names =>
      have finite : {name | name ∈ fs.entered path names}.Finite := List.finite_toSet _
      refine ((Set.finite_singleton path).union
        (finite.biUnion fun name mem => ih name ((mem_entered listed).mp mem))).subset ?_
      rintro below ⟨_ | ⟨name, rest⟩, descends, rfl⟩
      · exact .inl rfl
      · obtain ⟨eligible, descends⟩ := Lookup.descends_cons.mp descends
        exact .inr (Set.mem_biUnion ((mem_entered listed).mpr eligible) ⟨rest, descends, rfl⟩)

end FileSystem

end TestBench
