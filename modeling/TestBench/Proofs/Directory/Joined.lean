import TestBench.FileTree.Directories

/-! Paths made of names. The names below a root can be read back from a joined path: no name holds a
slash, and only the root can be empty or end in one. -/
namespace TestBench

/-- A name that a directory can list. -/
structure IsEntryName (name : String) : Prop where
  ne_empty : name ≠ ""
  whole : '/' ∉ name.toList

/-- The path that names lead to from a root. -/
def joinNames (root : String) (names : List String) : String :=
  names.foldl joinPath root

@[simp] theorem joinNames_nil (root : String) : joinNames root [] = root := rfl

@[simp] theorem joinNames_cons (root name : String) (names : List String) :
    joinNames root (name :: names) = joinNames (joinPath root name) names := rfl

theorem joinNames_append (root : String) (xs ys : List String) :
    joinNames root (xs ++ ys) = joinNames (joinNames root xs) ys :=
  List.foldl_append

/-- What a name is put behind. -/
def pathStem (path : String) : List Char :=
  if path.isEmpty ∨ path.toList.getLast? = some '/' then path.toList else path.toList ++ ['/']

theorem toList_joinPath (path name : String) :
    (joinPath path name).toList = pathStem path ++ name.toList := by
  unfold joinPath pathStem
  split <;> simp

theorem prefix_pathStem (path : String) : path.toList <+: pathStem path := by
  unfold pathStem
  split
  · exact List.prefix_refl _
  · exact List.prefix_append _ _

theorem length_lt_joinPath (path : String) {name : String} (ne : name ≠ "") :
    path.toList.length < (joinPath path name).toList.length := by
  have stem := (prefix_pathStem path).length_le
  have some_left : 0 < name.toList.length := by
    rw [List.length_pos_iff]
    simpa using ne
  rw [toList_joinPath, List.length_append]
  omega

theorem prefix_joinNames (root : String) (names : List String) :
    root.toList <+: (joinNames root names).toList := by
  induction names generalizing root with
  | nil => exact List.prefix_refl _
  | cons name names ih =>
    refine List.IsPrefix.trans ?_ (ih (joinPath root name))
    rw [toList_joinPath]
    exact (prefix_pathStem root).trans (List.prefix_append _ _)

theorem pathStem_joinPath (path : String) {name : String} (proper : IsEntryName name) :
    pathStem (joinPath path name) = (joinPath path name).toList ++ ['/'] := by
  have text := toList_joinPath path name
  have ne : name.toList ≠ [] := by simpa using proper.ne_empty
  have last : (joinPath path name).toList.getLast? ≠ some '/' := by
    rw [text, List.getLast?_append, List.getLast?_eq_some_getLast ne, Option.some_or]
    intro slash
    exact proper.whole (Option.some.inj slash ▸ List.getLast_mem ne)
  have some_left : (joinPath path name).isEmpty = false := by
    rw [← Bool.not_eq_true, String.isEmpty_iff, ← String.toList_eq_nil_iff, text]
    simp [ne]
  rw [pathStem, if_neg]
  simp [some_left, last]

theorem toList_joinNames {root name : String} {names : List String}
    (proper : ∀ n ∈ name :: names, IsEntryName n) :
    (joinNames root (name :: names)).toList =
      pathStem root ++ ['/'].intercalate ((name :: names).map String.toList) := by
  induction names generalizing root name with
  | nil => simp [toList_joinPath]
  | cons next names ih =>
    obtain ⟨first, others⟩ := List.forall_mem_cons.mp proper
    rw [joinNames_cons, ih others, pathStem_joinPath root first, toList_joinPath]
    simp [List.intercalate_cons_cons]

theorem pathParts_intercalate {part : List Char} {parts : List (List Char)}
    (whole : ∀ p ∈ part :: parts, '/' ∉ p) :
    pathParts (['/'].intercalate (part :: parts)) = part :: parts := by
  induction parts generalizing part with
  | nil => simpa using pathParts_eq_singleton (whole part List.mem_cons_self)
  | cons next parts ih =>
    obtain ⟨first, others⟩ := List.forall_mem_cons.mp whole
    rw [List.intercalate_cons_cons, List.append_assoc, List.singleton_append,
      pathParts_append_slash, ih others, pathParts_eq_singleton first]
    rfl

section Names

variable {root : String} {xs ys : List String}

theorem parts_of_names {name : String} {names : List String}
    (proper : ∀ n ∈ name :: names, IsEntryName n) :
    pathParts (['/'].intercalate ((name :: names).map String.toList)) =
      (name :: names).map String.toList := by
  rw [List.map_cons]
  apply pathParts_intercalate
  rw [← List.map_cons, List.forall_mem_map]
  exact fun n hn => (proper n hn).whole

theorem names_inj (same : xs.map String.toList = ys.map String.toList) : xs = ys :=
  (List.map_inj_right fun _ _ => String.toList_inj.mp).mp same

theorem root_ne_joinNames {name : String} {names : List String}
    (proper : ∀ n ∈ name :: names, IsEntryName n) : root ≠ joinNames root (name :: names) := by
  intro same
  have longer := length_lt_joinPath root (proper name List.mem_cons_self).ne_empty
  have within := (prefix_joinNames (joinPath root name) names).length_le
  rw [← joinNames_cons, ← same] at within
  omega

theorem joinNames_inj (hx : ∀ n ∈ xs, IsEntryName n) (hy : ∀ n ∈ ys, IsEntryName n)
    (same : joinNames root xs = joinNames root ys) : xs = ys := by
  cases xs with
  | nil =>
    cases ys with
    | nil => rfl
    | cons y ys => exact absurd same (root_ne_joinNames hy)
  | cons x xs =>
    cases ys with
    | nil => exact absurd same.symm (root_ne_joinNames hx)
    | cons y ys =>
      have texts := congrArg String.toList same
      rw [toList_joinNames hx, toList_joinNames hy] at texts
      have parts := congrArg pathParts (List.append_cancel_left texts)
      rw [parts_of_names hx, parts_of_names hy] at parts
      exact names_inj parts

theorem names_of_joinPath {rest : String} (hx : ∀ n ∈ xs, IsEntryName n)
    (hy : ∀ n ∈ ys, IsEntryName n) (ne : rest ≠ "")
    (behind : joinNames root ys = joinPath (joinNames root xs) rest) :
    ∃ name names, ys = xs ++ name :: names := by
  have longer := length_lt_joinPath (joinNames root xs) ne
  have above := (prefix_joinNames root xs).length_le
  rw [← behind] at longer
  cases ys with
  | nil =>
    rw [joinNames_nil] at longer
    omega
  | cons y ys =>
    cases xs with
    | nil => exact ⟨y, ys, rfl⟩
    | cons x xs =>
      have stem : pathStem (joinNames root (x :: xs)) =
          (joinNames root (x :: xs)).toList ++ ['/'] := by
        -- the last of the names is what stands before the slash
        obtain ⟨front, last, whole⟩ := List.eq_nil_or_concat (x :: xs) |>.resolve_left (by simp)
        rw [whole, List.concat_eq_append] at hx ⊢
        rw [joinNames_append]
        exact pathStem_joinPath _ (hx last (by simp))
      have texts := congrArg String.toList behind
      rw [toList_joinPath, stem, toList_joinNames hx, toList_joinNames hy, List.append_assoc,
        List.append_assoc] at texts
      have parts := congrArg pathParts (List.append_cancel_left texts)
      rw [List.singleton_append, pathParts_append_slash, parts_of_names hx, parts_of_names hy]
        at parts
      obtain ⟨front, back, cut, first, others⟩ := List.map_eq_append_iff.mp parts
      cases back with
      | nil => exact absurd others.symm (pathParts_ne_nil _)
      | cons name names => exact ⟨name, names, by rw [cut, names_inj first]⟩

end Names

end TestBench
