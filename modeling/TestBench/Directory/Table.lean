import TestBench.Directory.Basic

/-! A file system that knows a fixed set of path texts and nothing about how paths resolve: an entry
is found under its own text only, slashes at the end apart. -/
namespace TestBench

/-- The entries of a file system by their paths, and the directories that cannot be listed with the
reasons. -/
structure PathTable where
  directories : List String := []
  links : List String := []
  files : List String := []
  broken : List (String × String) := []

namespace PathTable

def dropSlashes (cs : List Char) : List Char :=
  (cs.reverse.dropWhile (· = '/')).reverse

def key (path : String) : String :=
  String.ofList (dropSlashes path.toList)

def lastName (path : String) : String :=
  String.ofList (path.toList.reverse.takeWhile (· ≠ '/')).reverse

def parent (path : String) : String :=
  String.ofList ((path.toList.reverse.dropWhile (· ≠ '/')).drop 1).reverse

def entries (t : PathTable) : List String :=
  (t.directories ++ t.links ++ t.files).eraseDups

/-- The names of the entries of a directory. An entry whose path ends in a slash has no name. -/
def names (t : PathTable) (path : String) : List String :=
  ((t.entries.filter fun e => parent e == key path).map lastName).filter (!·.isEmpty)

def lookup (t : PathTable) : Lookup where
  isDirectory path := t.directories.contains (key path) || t.links.contains (key path)
  isLink path := t.links.contains (key path)
  list path :=
    match t.broken.find? (·.1 == key path) with
    | some (_, reason) => .error reason
    | none => .ok (t.names path)

def height (t : PathTable) (path : String) : Nat :=
  t.directories.countP fun d => (key path).length < d.length

theorem lastName_noSlash (path : String) : '/' ∉ (lastName path).toList := by
  simp only [lastName, String.toList_ofList, List.mem_reverse]
  intro h
  have := List.all_eq_true.mp
    (List.all_takeWhile : (path.toList.reverse.takeWhile (· ≠ '/')).all (· ≠ '/') = true) _ h
  simp at this

theorem length_key_le (path : String) : (key path).toList.length ≤ path.toList.length := by
  simp only [key, dropSlashes, String.toList_ofList, List.length_reverse]
  exact Nat.le_trans (List.dropWhile_suffix _).length_le (by simp)

theorem length_joinPath_gt (path : String) {name : String} (h : name.isEmpty = false) :
    path.toList.length < (joinPath path name).toList.length := by
  have hn : name.toList ≠ [] := by
    intro h'
    rw [String.toList_eq_nil_iff] at h'
    simp [h'] at h
  have : 0 < name.toList.length := List.length_pos_iff.mpr hn
  unfold joinPath
  split <;> (simp only [String.toList_append, List.length_append]; omega)

theorem key_joinPath (path : String) {name : String} (h : name.isEmpty = false)
    (hs : '/' ∉ name.toList) : key (joinPath path name) = joinPath path name := by
  have hn : name.toList ≠ [] := by
    intro h'
    rw [String.toList_eq_nil_iff] at h'
    simp [h'] at h
  have hl : ∃ front, (joinPath path name).toList = front ++ name.toList := by
    unfold joinPath
    split
    · exact ⟨path.toList, by simp [String.toList_append]⟩
    · exact ⟨path.toList ++ "/".toList, by simp [String.toList_append]⟩
  obtain ⟨front, hf⟩ := hl
  have hr : dropSlashes (joinPath path name).toList = (joinPath path name).toList := by
    rw [hf, dropSlashes, List.reverse_append]
    cases hrev : name.toList.reverse with
    | nil => simp_all
    | cons c cs =>
      have hc : c ≠ '/' := by
        intro hc
        apply hs
        rw [← List.mem_reverse, hrev, hc]
        exact List.mem_cons_self
      rw [List.cons_append, List.dropWhile_cons_of_neg (by simpa using hc), ← List.cons_append,
        ← hrev, ← List.reverse_append, List.reverse_reverse]
  rw [key, hr, String.ofList_toList]

theorem countP_lt {p q : String → Bool} {x : String} {xs : List String} (hx : x ∈ xs)
    (hp : p x = false) (hq : q x = true) (hpq : ∀ y, p y = true → q y = true) :
    xs.countP p < xs.countP q := by
  induction xs with
  | nil => simp at hx
  | cons y ys ih =>
    have hle : ys.countP p ≤ ys.countP q := List.countP_mono_left fun z _ => hpq z
    rcases List.mem_cons.mp hx with rfl | h
    · rw [List.countP_cons_of_neg (by simp [hp]), List.countP_cons_of_pos hq]
      omega
    · have := ih h
      rw [List.countP_cons, List.countP_cons]
      by_cases hy : p y = true
      · simp [hy, hpq y hy, this]
      · by_cases hz : q y = true <;> simp [hy, hz] <;> omega

def fileSystem (t : PathTable) : FileSystem where
  toLookup := t.lookup
  height := t.height
  height_lt := by
    intro path names name hl hn he
    simp only [lookup] at hl
    split at hl
    · cases hl
    · cases hl
      simp only [PathTable.names, List.mem_filter, List.mem_map, Bool.not_eq_eq_eq_not,
        Bool.not_true] at hn
      obtain ⟨⟨e, _, rfl⟩, hne⟩ := hn
      have hk := key_joinPath path hne (lastName_noSlash e)
      have hlen := length_joinPath_gt path hne
      have hkey := length_key_le path
      simp only [Lookup.enters, lookup, Bool.and_eq_true, Bool.or_eq_true, Bool.not_eq_eq_eq_not,
        Bool.not_true] at he
      have hd : key (joinPath path (lastName e)) ∈ t.directories := by
        rcases he.1.2 with h | h
        · simpa using h
        · rw [he.2] at h
          cases h
      simp only [height]
      have hsub : ∀ d : String, (key (joinPath path (lastName e))).length < d.length →
          (key path).length < d.length := by
        intro d hd'
        rw [hk] at hd'
        simp only [← String.length_toList] at *
        omega
      refine Nat.lt_of_lt_of_le ?_ (Nat.le_refl _)
      exact countP_lt hd (by simp)
        (by rw [hk]; simp only [← String.length_toList] at *; simpa using by omega)
        (fun d h => by simpa using hsub d (by simpa using h))

end PathTable

end TestBench
