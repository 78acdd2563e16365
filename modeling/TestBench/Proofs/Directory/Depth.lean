import Mathlib
import TestBench.Proofs.Directory.Search

/-! How deep a search of directories given by a table of paths goes. Each call looks its directory up
under a longer text than the call that makes it, and finds it among the entries, so that no more calls
are open at a time than there are directories, and one for the root. -/
namespace TestBench

namespace Lookup

def children (fs : Lookup) (path : String) : Except Failure (List String) :=
  match fs.list path with
  | .error reason => .error (.unlistable path reason)
  | .ok names => .ok (((FileSystem.sortNames names).filter (fs.enters path)).map (joinPath path))

/-- The search below a directory with so many calls open at a time, itself included; no answer if
it needs more. -/
def leavesWithin (fs : Lookup) : Nat → String → ExceptT Failure Option (List String)
  | 0, _ => ExceptT.mk none
  | depth + 1, path => do
    match ← fs.children path with
    | [] => return [path]
    | children => return (← children.mapM (fs.leavesWithin depth)).flatten

/-- The calls that are open below a call for `path`, each made by the one before it. -/
inductive Nested (fs : Lookup) : String → List String → Prop where
  | last (path : String) : Nested fs path []
  | call {path child : String} {children calls : List String} (listed : fs.children path = .ok children)
      (mem : child ∈ children) (rest : Nested fs child calls) : Nested fs path (child :: calls)

theorem mem_children_iff {fs : Lookup} {path child : String} {children : List String}
    (listed : fs.children path = .ok children) :
    child ∈ children ↔ ∃ name, fs.Eligible path name ∧ child = joinPath path name := by
  unfold Lookup.children at listed
  split at listed
  · cases listed
  · rename_i names names_listed
    cases listed
    simp only [List.mem_map, List.mem_filter, FileSystem.sortNames, List.mem_mergeSort]
    constructor
    · rintro ⟨name, ⟨mem, enters⟩, rfl⟩
      exact ⟨name, (enters_iff names_listed mem).mp enters, rfl⟩
    · rintro ⟨name, eligible, rfl⟩
      obtain ⟨listing, same, mem⟩ := eligible.listed
      cases names_listed.symm.trans same
      exact ⟨name, ⟨mem, (enters_iff names_listed mem).mpr eligible⟩, rfl⟩

end Lookup

theorem mapM_mk_some {α β : Type} {f : α → ExceptT Failure Option β} {g : α → Except Failure β}
    {xs : List α} (each : ∀ x ∈ xs, f x = ExceptT.mk (some (g x))) :
    xs.mapM f = ExceptT.mk (some (xs.mapM g)) := by
  induction xs with
  | nil => rfl
  | cons x xs ih =>
    obtain ⟨first, others⟩ := List.forall_mem_cons.mp each
    rw [List.mapM_cons, List.mapM_cons, first, ih others]
    cases g x with
    | error e => rfl
    | ok y => cases xs.mapM g <;> rfl

theorem FileSystem.subdirectories_eq (fs : FileSystem) (path : String) :
    fs.subdirectories path = fs.children path :=
  rfl

/-- A search has an answer within any depth that its calls stay below, and it is the one without such
a limit. -/
theorem FileSystem.leavesWithin_eq (fs : FileSystem) {depth : Nat} {path : String}
    (bounded : ∀ calls, fs.Nested path calls → calls.length < depth) :
    (fs.leavesWithin depth path).run = some (fs.leavesBelow path) := by
  induction depth generalizing path with
  | zero => exact absurd (bounded [] (.last path)) (Nat.not_lt_zero _)
  | succ depth ih =>
    cases listed : fs.subdirectories path with
    | error e =>
      rw [leavesBelow_fails listed, Lookup.leavesWithin, ← subdirectories_eq, listed]
      rfl
    | ok children =>
      cases children with
      | nil =>
        rw [leavesBelow_leaf listed, Lookup.leavesWithin, ← subdirectories_eq, listed]
        rfl
      | cons child children =>
        have each : ∀ below ∈ child :: children,
            fs.leavesWithin depth below = ExceptT.mk (some (fs.leavesBelow below)) := by
          intro below mem
          refine ih fun calls nested => ?_
          have entered := (fs.subdirectories_eq path).symm.trans listed
          have shorter := bounded (below :: calls) (.call entered mem nested)
          simpa using shorter
        rw [leavesBelow_node listed, Lookup.leavesWithin, ← subdirectories_eq, listed]
        show (do
          let found ← (child :: children).mapM (fs.leavesWithin depth)
          return found.flatten : ExceptT Failure Option (List String)).run = _
        rw [mapM_mk_some each]
        cases (child :: children).mapM fs.leavesBelow <;> rfl

namespace PathTable

/-- The last names of the entries of a directory, empty ones included. -/
def lastNames (t : PathTable) (path : String) : List String :=
  (t.entries.filter fun entry => parent entry == key path).map lastName

/-- What the table answers if entries without a name are listed as well. -/
def bareLookup (t : PathTable) : Lookup where
  isDirectory := t.lookup.isDirectory
  isLink := t.lookup.isLink
  list path :=
    match t.broken.find? (·.1 == key path) with
    | some (_, reason) => .error reason
    | none => .ok (t.lastNames path)

/-- The texts under which the directories of open calls are looked up, the root's first. -/
structure Deepens (t : PathTable) (root : String) (calls : List String) : Prop where
  longer : ((root :: calls).map key).Pairwise fun above below => above.length < below.length
  distinct : ((root :: calls).map key).Nodup
  found : ∀ path ∈ calls, key path ∈ t.directories ∧ key path ∉ t.links
  bounded : (root :: calls).length ≤ t.directories.toFinset.card + 1

variable {t : PathTable} {path name : String} {calls : List String}

theorem bareLookup_eq (named : ∀ entry ∈ t.entries, lastName entry ≠ "") :
    t.bareLookup = t.lookup := by
  have same (path : String) : t.names path = t.lastNames path := by
    refine List.filter_eq_self.mpr fun name mem => ?_
    obtain ⟨entry, inside, rfl⟩ := List.mem_map.mp mem
    have some_name := named entry (List.mem_filter.mp inside).1
    simpa using some_name
  have lists (path : String) : t.bareLookup.list path = t.lookup.list path := by
    cases broken : t.broken.find? (·.1 == key path) with
    | none => simp only [bareLookup, lookup, broken, same]
    | some entry => simp only [bareLookup, lookup, broken]
  exact congrArg (Lookup.mk t.lookup.isDirectory t.lookup.isLink) (funext lists)

theorem isEntryName_of_eligible (eligible : t.lookup.Eligible path name) : IsEntryName name := by
  obtain ⟨names, listed, mem⟩ := eligible.listed
  simp only [lookup] at listed
  split at listed
  · cases listed
  · cases listed
    exact isEntryName_of_mem_names mem

theorem key_of_eligible (eligible : t.lookup.Eligible path name) :
    (key path).length < (key (joinPath path name)).length ∧
      key (joinPath path name) ∈ t.directories ∧ key (joinPath path name) ∉ t.links := by
  have proper := isEntryName_of_eligible eligible
  have some_name : name.isEmpty = false := by simpa using proper.ne_empty
  have directory := eligible.directory
  have unlinked := eligible.unlinked
  simp only [lookup, Bool.or_eq_true, List.contains_iff_mem] at directory unlinked
  have notLink : key (joinPath path name) ∉ t.links := by
    simpa [lookup] using unlinked
  refine ⟨?_, directory.resolve_right notLink, notLink⟩
  rw [key_joinPath path some_name proper.whole, ← String.length_toList, ← String.length_toList]
  exact (length_key_le path).trans_lt (length_joinPath_gt path some_name)

/-- A call looks its directory up under a longer text than the call that makes it, and finds it. -/
theorem key_of_call {child : String} {children : List String}
    (listed : t.lookup.children path = .ok children) (mem : child ∈ children) :
    (key path).length < (key child).length ∧ key child ∈ t.directories ∧ key child ∉ t.links := by
  obtain ⟨name, eligible, rfl⟩ := (Lookup.mem_children_iff listed).mp mem
  exact key_of_eligible eligible

theorem longer_of_nested (nested : t.lookup.Nested path calls) :
    ((path :: calls).map key).Pairwise fun above below => above.length < below.length := by
  induction nested with
  | last path => exact List.pairwise_singleton _ _
  | call listed mem rest ih =>
    have step := (key_of_call listed mem).1
    refine List.pairwise_cons.mpr ⟨?_, ih⟩
    intro below among
    rcases List.mem_cons.mp among with rfl | deeper
    · exact step
    · exact step.trans (List.rel_of_pairwise_cons ih deeper)

theorem found_of_nested (nested : t.lookup.Nested path calls) :
    ∀ below ∈ calls, key below ∈ t.directories ∧ key below ∉ t.links := by
  induction nested with
  | last path => simp
  | call listed mem rest ih => exact List.forall_mem_cons.mpr ⟨(key_of_call listed mem).2, ih⟩

theorem deepens_of_nested (nested : t.lookup.Nested path calls) : t.Deepens path calls := by
  have longer := longer_of_nested nested
  have found := found_of_nested nested
  have distinct : ((path :: calls).map key).Nodup :=
    longer.imp fun less same => absurd (congrArg String.length same) less.ne
  refine ⟨longer, distinct, found, ?_⟩
  -- all calls but the first stand for different directories of the table
  have within : (calls.map key).toFinset ⊆ t.directories.toFinset := by
    intro text mem
    obtain ⟨below, among, rfl⟩ := List.mem_map.mp (List.mem_toFinset.mp mem)
    exact List.mem_toFinset.mpr (found below among).1
  have fewer := Finset.card_le_card within
  rw [List.toFinset_card_of_nodup (List.nodup_cons.mp distinct).2, List.length_map] at fewer
  simpa using fewer

/-- A search in a table whose entries all have names ends. Each call looks its directory up under a
longer text than the calls above it and, the root apart, finds it in the table, so that the search has
its answer with no more calls open than there are directories, and one. -/
theorem search_ends (t : PathTable) (named : ∀ entry ∈ t.entries, lastName entry ≠ "")
    (root : String) :
    (∀ calls, t.bareLookup.Nested root calls → t.Deepens root calls) ∧
      (t.bareLookup.leavesWithin (t.directories.toFinset.card + 1) root).run =
        some (t.fileSystem.leavesBelow root) := by
  rw [bareLookup_eq named]
  have deepens (calls : List String) (nested : t.lookup.Nested root calls) : t.Deepens root calls :=
    deepens_of_nested nested
  refine ⟨deepens, t.fileSystem.leavesWithin_eq fun calls nested => ?_⟩
  exact Nat.lt_of_succ_le (deepens calls nested).bounded

theorem key_joinPath_empty (path : String) : key (joinPath path "") = key path := by
  unfold joinPath
  split
  · rw [String.append_empty]
  · simp [key, dropSlashes]

/-- An entry without a name stands for the directory it is in, so that calls go on below it for ever. -/
theorem nested_of_nameless {entry : String} (mem : entry ∈ t.entries)
    (inside : parent entry = key path) (nameless : lastName entry = "")
    (listable : t.broken.find? (·.1 == key path) = none) (directory : key path ∈ t.directories)
    (unlinked : key path ∉ t.links) (n : Nat) :
    ∃ calls, t.bareLookup.Nested path calls ∧ calls.length = n := by
  induction n generalizing path with
  | zero => exact ⟨[], .last path, rfl⟩
  | succ n ih =>
    have same := key_joinPath_empty path
    obtain ⟨calls, nested, length⟩ := @ih (joinPath path "") (by rw [same, inside])
      (by rw [same, listable]) (by rwa [same]) (by rwa [same])
    have names : t.bareLookup.list path = .ok (t.lastNames path) := by
      simp only [bareLookup, listable]
    have among : "" ∈ t.lastNames path :=
      List.mem_map.mpr ⟨entry, List.mem_filter.mpr ⟨mem, by simp [inside]⟩, nameless⟩
    have eligible : t.bareLookup.Eligible path "" := by
      refine ⟨⟨_, names, among⟩, by decide, ?_, ?_⟩
      · simp [bareLookup, lookup, same, directory]
      · simp [bareLookup, lookup, same, unlinked]
    have listed : t.bareLookup.children path = .ok (((FileSystem.sortNames (t.lastNames path)).filter
        (t.bareLookup.enters path)).map (joinPath path)) := by
      rw [Lookup.children, names]
    exact ⟨joinPath path "" :: calls,
      .call listed ((Lookup.mem_children_iff listed).mpr ⟨"", eligible, rfl⟩) nested, by simp [length]⟩

/-- The root is a link with a slash behind it, and below it there are as many calls as directories. -/
theorem search_ends_of_linked_root :
    let table : PathTable :=
      { directories := ["x/a", "x/a/b"]
        links := ["x", "x/a/l"]
        files := ["x/f"] }
    let calls := ["x/a", "x/a/b"]
    (∀ entry ∈ table.entries, lastName entry ≠ "") ∧
      table.bareLookup.Nested "x/" calls ∧ table.Deepens "x/" calls ∧
      calls.length + 1 = table.directories.toFinset.card + 1 ∧
      (table.bareLookup.leavesWithin 3 "x/").run = some (.ok ["x/a/b"]) ∧
      table.fileSystem.leavesBelow "x/" = .ok ["x/a/b"] := by
  intro table calls
  have named : ∀ entry ∈ table.entries, lastName entry ≠ "" := by decide +kernel
  have top : table.bareLookup.children "x/" = .ok ["x/a"] := by cbv
  have inner : table.bareLookup.children "x/a" = .ok ["x/a/b"] := by cbv
  have nested : table.bareLookup.Nested "x/" calls :=
    .call top List.mem_cons_self (.call inner List.mem_cons_self (.last _))
  have count : table.directories.toFinset.card = 2 := by decide +kernel
  have answer : (table.bareLookup.leavesWithin 3 "x/").run = some (.ok ["x/a/b"]) := by cbv
  obtain ⟨deepens, ends⟩ := search_ends table named "x/"
  rw [count, answer] at ends
  exact ⟨named, nested, deepens calls nested, by rw [count]; rfl, answer, (Option.some.inj ends).symm⟩

end PathTable

end TestBench
