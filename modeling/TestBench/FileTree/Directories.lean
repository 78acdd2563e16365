import TestBench.Directory.Basic
import TestBench.FileTree.Basic

/-! A file tree answers the questions of a search. Directories entered in a search lie at longer and
longer locations, of which the tree has finitely many, so the search ends. -/
namespace TestBench

theorem pathParts_ne_nil (cs : List Char) : pathParts cs ≠ [] := by
  cases cs with
  | nil => simp [pathParts]
  | cons c cs =>
    rw [pathParts]
    split
    · simp
    · split <;> simp

theorem pathParts_append_slash (xs ys : List Char) :
    pathParts (xs ++ '/' :: ys) = pathParts xs ++ pathParts ys := by
  induction xs with
  | nil => simp [pathParts]
  | cons x xs ih =>
    rw [List.cons_append, pathParts, pathParts, ih]
    split
    · simp
    · cases h : pathParts xs with
      | nil => exact absurd h (pathParts_ne_nil xs)
      | cons part parts => simp

theorem pathParts_eq_singleton {cs : List Char} (h : '/' ∉ cs) : pathParts cs = [cs] := by
  induction cs with
  | nil => rfl
  | cons c cs ih =>
    simp only [List.mem_cons, not_or] at h
    rw [pathParts, if_neg (Ne.symm h.1), ih h.2]

/-- The names of a path that has one name appended: it comes last, and the others lead where the
path leads, but for an empty name at the end. -/
theorem pathNames_joinPath {path name : String} (hp : path.isEmpty = false)
    (hn : '/' ∉ name.toList) :
    ∃ front, pathNames (joinPath path name) = front ++ [name] ∧
      (pathNames path = front ∨ pathNames path = front ++ [""]) := by
  have hname : (pathParts name.toList).map String.ofList = [name] := by
    simp [pathParts_eq_singleton hn]
  unfold joinPath
  split
  · rename_i h
    have hlast : path.toList.getLast? = some '/' := by
      rcases h with h | h
      · rw [hp] at h
        cases h
      · exact h
    obtain ⟨q, hq⟩ : ∃ q, path.toList = q ++ ['/'] := by
      obtain ⟨q, hq⟩ := List.getLast?_eq_some_iff.mp hlast
      exact ⟨q, hq⟩
    refine ⟨(pathParts q).map String.ofList, ?_, Or.inr ?_⟩
    · rw [pathNames, String.toList_append, hq, List.append_assoc, List.singleton_append,
        pathParts_append_slash, List.map_append, hname]
    · rw [pathNames, hq, pathParts_append_slash, List.map_append]
      rfl
  · refine ⟨pathNames path, ?_, Or.inl rfl⟩
    rw [pathNames, String.toList_append, String.toList_append, List.append_assoc]
    have : "/".toList ++ name.toList = '/' :: name.toList := rfl
    rw [this, pathParts_append_slash, List.map_append, hname, pathNames]

theorem isAbsolute_joinPath {path name : String} (hp : path.isEmpty = false) :
    isAbsolute (joinPath path name) = isAbsolute path := by
  have hne : path.toList ≠ [] := by
    intro h
    rw [String.toList_eq_nil_iff] at h
    simp [h] at hp
  unfold joinPath isAbsolute
  cases h : path.toList with
  | nil => exact absurd h hne
  | cons c cs => split <;> simp [String.toList_append, h]

namespace FileTree

theorem walk_append (tree : FileTree) (links : Nat) (here : Location) (xs ys : List String) :
    tree.walk links here (xs ++ ys) =
      (tree.walk links here xs).bind fun (at_, left) => tree.walk left at_ ys := by
  fun_induction tree.walk links here xs with
  | case1 => rfl
  | case2 links here name rest h => rw [List.cons_append, walk, if_pos h]; rfl
  | case3 links here name rest h h1 ih => rw [List.cons_append, walk, if_neg h, if_pos h1, ih]
  | case4 links here name rest h h1 h2 ih =>
    rw [List.cons_append, walk, if_neg h, if_neg h1, if_pos h2, ih]
  | case5 links here name rest h h1 h2 h3 =>
    rw [List.cons_append, walk, if_neg h, if_neg h1, if_neg h2, if_pos h3]
    rfl
  | case6 links here name rest h h1 h2 h3 h4 =>
    rw [List.cons_append, walk, if_neg h, if_neg h1, if_neg h2, if_neg h3, h4]
    rfl
  | case7 here name rest h h1 h2 h3 target h4 =>
    rw [List.cons_append, walk, if_neg h, if_neg h1, if_neg h2, if_neg h3, h4]
    rfl
  | case8 here name rest h h1 h2 h3 target h4 links ih =>
    rw [List.cons_append, walk, if_neg h, if_neg h1, if_neg h2, if_neg h3, h4]
    rw [List.append_assoc] at ih
    exact ih
  | case9 links here name rest h h1 h2 h3 entry h4 h5 ih =>
    rw [List.cons_append, walk, if_neg h, if_neg h1, if_neg h2, if_neg h3, h5]
    cases entry with
    | link target => exact absurd rfl (h4 target)
    | directory | file => exact ih

/-- Where one name leads that is no link: to the entry of that name. -/
theorem walk_name {tree : FileTree} {links left : Nat} {here at_ : Location} {name : String}
    (hn : isHere name = false) (hd : (name == "..") = false)
    (hl : ∀ target, tree.at? (here ++ [name]) ≠ some (.link target))
    (h : tree.walk links here [name] = .ok (at_, left)) :
    at_ = here ++ [name] ∧ tree.at? (here ++ [name]) ≠ none := by
  rw [walk] at h
  split at h
  · cases h
  · rw [if_neg (by simp [hn]), if_neg (by simp [hd])] at h
    split at h
    · cases h
    · split at h
      · cases h
      · rename_i target ht
        exact absurd ht (hl target)
      · rename_i hs
        rw [walk] at h
        cases h
        exact ⟨rfl, by simp [hs]⟩

def isLinkPath (tree : FileTree) (path : String) : Bool :=
  let names := pathNames path
  match tree.walk linkLimit (tree.start path) names.dropLast with
  | .error _ => false
  | .ok (parent, _) =>
    let name := names.getLastD ""
    tree.isDirectoryAt parent && !isHere name && name != ".." &&
      match tree.at? (parent ++ [name]) with
      | some (.link _) => true
      | _ => false

def namesIn (tree : FileTree) (at_ : Location) : List String :=
  (tree.entries.filterMap fun (location, _) =>
    if location.dropLast == at_ then location.getLast? else none).filter fun name =>
      !name.isEmpty && !name.toList.contains '/'

def directoryLookup (tree : FileTree) : Lookup where
  isDirectory path :=
    match tree.lookup? path with
    | some .directory => true
    | _ => false
  isLink := tree.isLinkPath
  list path :=
    match tree.locate path with
    | .error kind => .error (FileError.message ⟨kind, path⟩)
    | .ok at_ =>
      if tree.isDirectoryAt at_ then .ok (tree.namesIn at_)
      else .error (FileError.message ⟨.notDirectory, path⟩)

def depth (tree : FileTree) : Nat :=
  (tree.entries.map (·.1.length)).foldr max 0 + 1

def height (tree : FileTree) (path : String) : Nat :=
  match tree.locate path with
  | .ok at_ => tree.depth - at_.length
  | .error _ => 0

theorem length_lt_depth {tree : FileTree} {at_ : Location} {entry : Entry}
    (h : tree.at? at_ = some entry) : at_.length < tree.depth := by
  have hmax : ∀ (ns : List Nat) (n : Nat), n ∈ ns → n ≤ ns.foldr max 0 := by
    intro ns
    induction ns with
    | nil => simp
    | cons m ms ih =>
      intro n hn
      rcases List.mem_cons.mp hn with rfl | hn
      · exact Nat.le_max_left _ _
      · exact Nat.le_trans (ih n hn) (Nat.le_max_right _ _)
  unfold at? at h
  split at h
  · rename_i he
    simp [he, depth]
  · cases hf : tree.entries.find? (·.1 == at_) with
    | none => simp [hf] at h
    | some pair =>
      have hmem := List.mem_of_find?_eq_some hf
      have heq : pair.1 = at_ := by simpa using List.find?_some hf
      have := hmax (tree.entries.map (·.1.length)) at_.length
        (List.mem_map.mpr ⟨pair, hmem, by rw [heq]⟩)
      simp only [depth]
      omega

theorem locate_eq {tree : FileTree} {path : String} (hp : path.isEmpty = false) :
    tree.locate path =
      (tree.walk linkLimit (tree.start path) (pathNames path)).map (·.1) := by
  simp [locate, hp]

theorem isEmpty_of_locate {tree : FileTree} {path : String} {at_ : Location}
    (h : tree.locate path = .ok at_) : path.isEmpty = false := by
  unfold locate at h
  split at h
  · cases h
  · rename_i hp
    exact Bool.eq_false_iff.mpr hp

/-- The names of a path lead on, without an empty one at the end, to where the path leads. -/
theorem walk_front {tree : FileTree} {path : String} {at_ : Location} {front : List String}
    (h : tree.locate path = .ok at_)
    (hfront : pathNames path = front ∨ pathNames path = front ++ [""]) :
    ∃ left, tree.walk linkLimit (tree.start path) front = .ok (at_, left) := by
  rw [locate_eq (isEmpty_of_locate h)] at h
  rcases hfront with hf | hf
  · rw [hf] at h
    cases hw : tree.walk linkLimit (tree.start path) front with
    | error e => rw [hw] at h; cases h
    | ok pair => rw [hw] at h; cases h; exact ⟨pair.2, rfl⟩
  · rw [hf, walk_append] at h
    cases hw : tree.walk linkLimit (tree.start path) front with
    | error e => rw [hw] at h; cases h
    | ok pair =>
      obtain ⟨c, left⟩ := pair
      rw [hw] at h
      simp only [Except.bind] at h
      rw [walk] at h
      split at h
      · cases h
      · rw [if_pos (by decide), walk] at h
        cases h
        exact ⟨left, rfl⟩

theorem isHere_of_visible {name : String} (hne : name.isEmpty = false)
    (h : Lookup.isHidden name = false) : isHere name = false ∧ (name == "..") = false := by
  constructor
  · simp only [isHere, hne, Bool.false_or]
    cases hdot : name == "." with
    | false => rfl
    | true =>
      rw [beq_iff_eq] at hdot
      subst hdot
      cases h
  · cases hdot : name == ".." with
    | false => rfl
    | true =>
      rw [beq_iff_eq] at hdot
      subst hdot
      cases h

theorem locate_joinPath {tree : FileTree} {path name : String} {at_ : Location}
    (hl : tree.locate path = .ok at_) (hd : tree.isDirectoryAt at_ = true)
    (hne : name.isEmpty = false) (hn : '/' ∉ name.toList)
    (he : tree.directoryLookup.enters path name = true) :
    tree.locate (joinPath path name) = .ok (at_ ++ [name]) ∧
      tree.at? (at_ ++ [name]) ≠ none := by
  have hp := isEmpty_of_locate hl
  obtain ⟨front, hjoin, hfront⟩ := pathNames_joinPath hp hn
  simp only [Lookup.enters, Bool.and_eq_true, Bool.not_eq_eq_eq_not, Bool.not_true] at he
  obtain ⟨⟨hhidden, hdir⟩, hlink⟩ := he
  obtain ⟨hhere, hup⟩ := isHere_of_visible hne hhidden
  have hstart : tree.start (joinPath path name) = tree.start path := by
    simp [start, isAbsolute_joinPath hp]
  obtain ⟨left, hwalk⟩ := walk_front hl hfront
  have hempty : (joinPath path name).isEmpty = false := by
    unfold joinPath
    split <;> simp_all [String.isEmpty_iff]
  have hnolink : ∀ target, tree.at? (at_ ++ [name]) ≠ some (.link target) := by
    intro target ht
    simp only [directoryLookup, isLinkPath, hjoin, hstart, List.dropLast_concat, hwalk,
      List.getLastD_concat, hd, hhere, hup, bne, ht] at hlink
    cases hlink
  have hloc : tree.locate (joinPath path name) = (tree.walk left at_ [name]).map (·.1) := by
    rw [locate_eq hempty, hjoin, hstart, walk_append, hwalk]
    rfl
  cases hw : tree.walk left at_ [name] with
  | error e =>
    rw [hw] at hloc
    simp only [directoryLookup, lookup?, hloc, Except.map] at hdir
    cases hdir
  | ok pair =>
    obtain ⟨h1, h2⟩ := walk_name hhere hup hnolink hw
    rw [hloc, hw, ← h1]
    exact ⟨rfl, h1 ▸ h2⟩

def fileSystem (tree : FileTree) : FileSystem where
  toLookup := tree.directoryLookup
  height := tree.height
  height_lt := by
    intro path names name hlist hmem henters
    simp only [directoryLookup] at hlist
    split at hlist
    · cases hlist
    · rename_i at_ hloc
      split at hlist
      · rename_i hd
        cases hlist
        simp only [namesIn, List.mem_filter, Bool.and_eq_true, Bool.not_eq_eq_eq_not,
          Bool.not_true, List.contains_eq_mem, decide_eq_false_iff_not] at hmem
        obtain ⟨hjoin, hentry⟩ := locate_joinPath hloc hd hmem.2.1 hmem.2.2 henters
        have hdepth : (at_ ++ [name]).length < tree.depth := by
          cases he : tree.at? (at_ ++ [name]) with
          | none => exact absurd he hentry
          | some entry => exact length_lt_depth he
        simp only [height, hjoin, hloc]
        simp only [List.length_append, List.length_singleton] at hdepth ⊢
        omega
      · cases hlist

end FileTree

end TestBench
