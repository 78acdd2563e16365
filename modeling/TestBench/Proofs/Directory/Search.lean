import Mathlib
import TestBench.Directory.Table
import TestBench.Proofs.Directory.Descent

/-! What a search finds if it can list every directory that it reaches: the ways down that end in a
leaf, each once and in the order of their names. This is not the order of the paths as texts, where
the slash counts as a character. -/
namespace TestBench

theorem mapM_eq_ok_map {α β : Type} {f : α → Except Failure β} {g : α → β} {xs : List α}
    (each : ∀ x ∈ xs, f x = .ok (g x)) : xs.mapM f = .ok (xs.map g) := by
  induction xs with
  | nil => rfl
  | cons x xs ih =>
    obtain ⟨first, others⟩ := List.forall_mem_cons.mp each
    rw [List.mapM_cons, first, ih others]
    rfl

namespace Lookup

/-- Every directory that is reached from a path can be listed. -/
def Listable (fs : Lookup) (path : String) : Prop :=
  ∀ names, fs.Descends path names → ∃ listing, fs.list (joinNames path names) = .ok listing

theorem Listable.entry {fs : Lookup} {path name : String} (listable : fs.Listable path)
    (eligible : fs.Eligible path name) : fs.Listable (joinPath path name) :=
  fun names descends => listable (name :: names) (.down eligible descends)

/-- The leaves are those at the ends of the ways from the root that end in a leaf. -/
structure Exact (fs : Lookup) (root : String) (leaves : List String)
    (ways : List (List String)) : Prop where
  joined : leaves = ways.map (joinNames root)
  mem_iff : ∀ names, names ∈ ways ↔ fs.EndsInLeaf root names
  -- in the order of lists of names, which compare names by their code points
  increasing : ways.Pairwise (· < ·)
  once : leaves.Nodup
  ne_nil : leaves ≠ []
  -- no leaf lies above another
  apart : ∀ a ∈ leaves, ∀ b ∈ leaves, ∀ rest, rest ≠ "" → b ≠ joinPath a rest
  -- at or below each directory that is reached there is a leaf
  covers : ∀ names, fs.Descends root names → ∃ more, joinNames root (names ++ more) ∈ leaves

end Lookup

namespace FileSystem

variable {fs : FileSystem} {path : String} {names : List String}

theorem leavesBelow_listed (listed : fs.list path = .ok names) :
    fs.leavesBelow path =
      if fs.entered path names = [] then .ok [path]
      else ((fs.entered path names).mapM fun name => fs.leavesBelow (joinPath path name)).map
        List.flatten := by
  have children : fs.subdirectories path = .ok ((fs.entered path names).map (joinPath path)) := by
    simp only [subdirectories, listed, entered]
  cases inner : fs.entered path names with
  | nil =>
    rw [inner] at children
    rw [if_pos rfl]
    exact leavesBelow_leaf children
  | cons name rest =>
    rw [inner, List.map_cons] at children
    rw [leavesBelow_node children, ← List.map_cons, List.mapM_map, if_neg (List.cons_ne_nil _ _)]
    rfl

theorem leavesBelow_found (proper : fs.ProperListings) (listable : fs.Listable path) :
    ∃ ways : List (List String), fs.leavesBelow path = .ok (ways.map (joinNames path)) ∧
      (∀ names, names ∈ ways ↔ fs.EndsInLeaf path names) ∧ ways.Pairwise (· < ·) := by
  induction path using descent_induction fs with
  | step path ih =>
    obtain ⟨listing, listed⟩ := listable [] (.here path)
    rw [joinNames_nil] at listed
    have entry (name : String) : name ∈ fs.entered path listing ↔ fs.Eligible path name :=
      mem_entered listed
    rw [leavesBelow_listed listed]
    by_cases none_left : fs.entered path listing = []
    · refine ⟨[[]], by simp [none_left], ?_, List.pairwise_singleton _ _⟩
      have leaf : ∀ name, ¬ fs.Eligible path name := fun name => by
        simp [← entry name, none_left]
      intro names
      cases names with
      | nil => simpa [Lookup.endsInLeaf_nil] using leaf
      | cons name names => simp [Lookup.endsInLeaf_cons, leaf name]
    · have found (name : String) (mem : name ∈ fs.entered path listing) :=
        ih name ((entry name).mp mem) (listable.entry ((entry name).mp mem))
      choose! ways searched mem_iff increasing using found
      refine ⟨(fs.entered path listing).flatMap fun name => (ways name).map (name :: ·), ?_, ?_, ?_⟩
      · rw [if_neg none_left, mapM_eq_ok_map searched]
        simp [Except.map, List.flatMap_def, Function.comp_def]
      · intro names
        simp only [List.mem_flatMap, List.mem_map]
        constructor
        · rintro ⟨name, mem, rest, way, rfl⟩
          exact Lookup.endsInLeaf_cons.mpr ⟨(entry name).mp mem, (mem_iff name mem rest).mp way⟩
        · intro leaf
          cases names with
          | nil =>
            obtain ⟨name, mem⟩ := List.exists_mem_of_ne_nil _ none_left
            exact absurd ((entry name).mp mem) (leaf.last name)
          | cons name rest =>
            obtain ⟨eligible, rest_leaf⟩ := Lookup.endsInLeaf_cons.mp leaf
            have mem := (entry name).mpr eligible
            exact ⟨name, mem, rest, (mem_iff name mem rest).mpr rest_leaf, rfl⟩
      · -- the first names decide between entries, the further ones within an entry
        have distinct := (proper path listing listed).1
        rw [List.pairwise_flatMap]
        constructor
        · intro name mem
          rw [List.pairwise_map]
          exact (increasing name mem).imp fun less => List.cons_lt_cons_iff.mpr (.inr ⟨rfl, less⟩)
        · refine (entered_increasing fs path distinct).imp fun {a b} less => ?_
          intro x hx y hy
          obtain ⟨xs, -, rfl⟩ := List.mem_map.mp hx
          obtain ⟨ys, -, rfl⟩ := List.mem_map.mp hy
          exact List.cons_lt_cons_iff.mpr (.inl less)

theorem exact_of_ways {root : String} {ways : List (List String)} (proper : fs.ProperListings)
    (mem_iff : ∀ names, names ∈ ways ↔ fs.EndsInLeaf root names)
    (increasing : ways.Pairwise (· < ·)) :
    fs.Exact root (ways.map (joinNames root)) ways := by
  have named (names : List String) (mem : names ∈ ways) : ∀ n ∈ names, IsEntryName n :=
    ((mem_iff names).mp mem).descends.isEntryName proper
  have covers (names : List String) (descends : fs.Descends root names) :
      ∃ more, joinNames root (names ++ more) ∈ ways.map (joinNames root) := by
    obtain ⟨more, leaf⟩ := fs.exists_leaf (joinNames root names)
    exact ⟨more, List.mem_map_of_mem ((mem_iff _).mpr (.append descends leaf))⟩
  refine ⟨rfl, mem_iff, increasing, ?_, ?_, ?_, covers⟩
  · rw [List.nodup_iff_pairwise_ne, List.pairwise_map]
    refine increasing.imp_of_mem fun {xs ys} hx hy less same => ?_
    cases joinNames_inj (named xs hx) (named ys hy) same
    exact List.lt_irrefl _ less
  · obtain ⟨more, mem⟩ := covers [] (.here root)
    exact List.ne_nil_of_mem mem
  · intro a ha b hb rest ne behind
    obtain ⟨xs, hx, rfl⟩ := List.mem_map.mp ha
    obtain ⟨ys, hy, rfl⟩ := List.mem_map.mp hb
    obtain ⟨name, names, rfl⟩ := names_of_joinPath (named xs hx) (named ys hy) ne behind
    exact ((mem_iff xs).mp hx).not_descends_beyond ((mem_iff _).mp hy).descends

/-- Lookups with proper listings and finitely many directories can be searched, and a search of a
directory in which everything reached can be listed finds its leaves exactly. -/
theorem search_finds_exactly (fs : Lookup) (proper : fs.ProperListings)
    (finite : fs.FinitelyBelow) :
    (∃ bounded : FileSystem, bounded.toLookup = fs) ∧
      ∀ bounded : FileSystem, bounded.toLookup = fs → ∀ root, fs.isDirectory root = true →
        fs.Listable root →
        ∃ leaves ways, bounded.leaves root = .ok leaves ∧ fs.Exact root leaves ways := by
  refine ⟨finite.exists_fileSystem proper, ?_⟩
  rintro bounded rfl root directory listable
  obtain ⟨ways, searched, mem_iff, increasing⟩ := leavesBelow_found proper listable
  refine ⟨ways.map (joinNames root), ways, ?_, exact_of_ways proper mem_iff increasing⟩
  rw [leaves, if_pos directory, searched]

end FileSystem

theorem PathTable.isEntryName_of_mem_names {t : PathTable} {path name : String}
    (mem : name ∈ t.names path) : IsEntryName name := by
  simp only [PathTable.names, List.mem_filter, List.mem_map, Bool.not_eq_true'] at mem
  obtain ⟨⟨entry, -, rfl⟩, some_left⟩ := mem
  refine ⟨?_, lastName_noSlash entry⟩
  rintro empty
  simp [empty] at some_left

theorem PathTable.properListings {t : PathTable} (apart : (t.entries.map lastName).Nodup) :
    t.lookup.ProperListings := by
  intro path names listed
  simp only [lookup] at listed
  split at listed
  · cases listed
  · cases listed
    exact ⟨(apart.sublist (List.filter_sublist.map lastName)).filter _,
      fun name mem => isEntryName_of_mem_names mem⟩

/-- As a text, the path `r/a-b` comes before `r/a/c`. -/
theorem search_finds_exactly_of_nested :
    let table : PathTable :=
      { directories := ["r", "r/a-b", "r/a", "r/a/c", "r/.git"]
        links := ["r/l"]
        files := ["r/f"] }
    table.lookup.ProperListings ∧ table.lookup.FinitelyBelow ∧
      table.lookup.isDirectory "r" = true ∧ table.lookup.Listable "r" ∧
      table.fileSystem.leaves "r" = .ok ["r/a/c", "r/a-b"] ∧
      ∃ ways, table.lookup.Exact "r" ["r/a/c", "r/a-b"] ways := by
  intro table
  have proper : table.lookup.ProperListings := PathTable.properListings (by decide +kernel)
  have finite : table.lookup.FinitelyBelow := table.fileSystem.finitelyBelow
  have directory : table.lookup.isDirectory "r" = true := by decide +kernel
  have listable : table.lookup.Listable "r" := fun names _ => ⟨_, rfl⟩
  have searched : table.fileSystem.leaves "r" = .ok ["r/a/c", "r/a-b"] := by
    have top : table.fileSystem.subdirectories "r" = .ok ["r/a", "r/a-b"] := by cbv
    have inner : table.fileSystem.subdirectories "r/a" = .ok ["r/a/c"] := by cbv
    have first : table.fileSystem.subdirectories "r/a/c" = .ok [] := by cbv
    have second : table.fileSystem.subdirectories "r/a-b" = .ok [] := by cbv
    have entered : table.fileSystem.isDirectory "r" = true := directory
    rw [FileSystem.leaves, if_pos entered, FileSystem.leavesBelow_node top]
    simp only [List.mapM_cons, List.mapM_nil, FileSystem.leavesBelow_node inner,
      FileSystem.leavesBelow_leaf first, FileSystem.leavesBelow_leaf second]
    rfl
  obtain ⟨leaves, ways, found, exactly⟩ :=
    (FileSystem.search_finds_exactly table.lookup proper finite).2 table.fileSystem rfl "r"
      directory listable
  cases searched.symm.trans found
  exact ⟨proper, finite, directory, listable, searched, ways, exactly⟩

end TestBench
