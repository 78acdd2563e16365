import TestBench.Directory.Leaves

/-! What a search for leaf directories finds and how it can fail, read off its recursion once. -/
namespace TestBench

theorem joinPath_ne_empty {path : String} (h : path ≠ "") (name : String) :
    joinPath path name ≠ "" := by
  unfold joinPath
  split <;> simp [h]

theorem mem_of_mapM_ok {α β : Type} {f : α → Except Failure β} {xs : List α} {ys : List β} {y : β}
    (h : xs.mapM f = .ok ys) (hy : y ∈ ys) : ∃ x ∈ xs, f x = .ok y := by
  induction xs generalizing ys with
  | nil =>
    cases h
    cases hy
  | cons x xs ih =>
    rw [List.mapM_cons] at h
    cases first : f x with
    | error e => simp [first, bind, Except.bind] at h
    | ok z =>
      cases rest : xs.mapM f with
      | error e => simp [first, rest, bind, Except.bind] at h
      | ok zs =>
        simp only [first, rest, bind, Except.bind, pure, Except.pure, Except.ok.injEq] at h
        subst h
        rcases List.mem_cons.mp hy with rfl | hy
        · exact ⟨x, List.mem_cons_self, first⟩
        · obtain ⟨w, hw, found⟩ := ih rest hy
          exact ⟨w, List.mem_cons_of_mem _ hw, found⟩

theorem error_of_mapM_error {α β : Type} {f : α → Except Failure β} {xs : List α} {e : Failure}
    (h : xs.mapM f = .error e) : ∃ x ∈ xs, f x = .error e := by
  induction xs with
  | nil => cases h
  | cons x xs ih =>
    rw [List.mapM_cons] at h
    cases first : f x with
    | error e' =>
      simp only [first, bind, Except.bind, Except.error.injEq] at h
      exact ⟨x, List.mem_cons_self, by rw [first, h]⟩
    | ok z =>
      cases rest : xs.mapM f with
      | error e' =>
        simp only [first, rest, bind, Except.bind, Except.error.injEq] at h
        obtain ⟨w, hw, found⟩ := ih (by rw [rest, h])
        exact ⟨w, List.mem_cons_of_mem _ hw, found⟩
      | ok zs => simp [first, rest, bind, Except.bind, pure, Except.pure] at h

namespace FileSystem

variable {fs : FileSystem}

theorem joined_of_subdirectories {path : String} {children : List String}
    (h : fs.subdirectories path = .ok children) :
    ∀ d ∈ children, ∃ name, d = joinPath path name := by
  unfold subdirectories at h
  split at h
  · cases h
  · cases h
    intro d hd
    obtain ⟨name, _, rfl⟩ := List.mem_map.mp hd
    exact ⟨name, rfl⟩

theorem leavesBelow_node {path child : String} {children : List String}
    (h : fs.subdirectories path = .ok (child :: children)) :
    fs.leavesBelow path = ((child :: children).mapM fs.leavesBelow).map List.flatten := by
  rw [leavesBelow]
  split
  · rename_i e failed
    simp [h] at failed
  · rename_i none_left
    simp [h] at none_left
  · rename_i d ds found
    rw [h] at found
    cases found
    have plain := List.mapM_subtype (l := (child :: children).attach)
      (f := fun d => fs.leavesBelow d.1) (g := fs.leavesBelow) fun _ _ => rfl
    rw [List.unattach_attach] at plain
    simp only [plain]
    cases (child :: children).mapM fs.leavesBelow <;> rfl

theorem leavesBelow_fails {path : String} {e : Failure} (h : fs.subdirectories path = .error e) :
    fs.leavesBelow path = .error e := by
  rw [leavesBelow]
  split <;> simp_all

theorem leavesBelow_leaf {path : String} (h : fs.subdirectories path = .ok []) :
    fs.leavesBelow path = .ok [path] := by
  rw [leavesBelow]
  split <;> simp_all

/-- What holds of a directory that is a leaf, and of a leaf below an entered directory only if it
holds below the directory itself, holds of all leaves that a search finds. -/
theorem forall_leavesBelow {P : String → String → Prop} (leaf : ∀ path, P path path)
    (below : ∀ path name found, P (joinPath path name) found → P path found) {path : String}
    {leaves : List String} (h : fs.leavesBelow path = .ok leaves) :
    ∀ found ∈ leaves, P path found := by
  induction path using leavesBelow.induct fs generalizing leaves with
  | case1 path e failed =>
    rw [leavesBelow_fails failed] at h
    cases h
  | case2 path empty =>
    rw [leavesBelow_leaf empty] at h
    cases h
    simpa using leaf path
  | case3 path child children listed ih =>
    rw [leavesBelow_node listed] at h
    cases searched : (child :: children).mapM fs.leavesBelow with
    | error e =>
      rw [searched] at h
      cases h
    | ok founds =>
      rw [searched] at h
      cases h
      intro found hf
      obtain ⟨part, hs, hf⟩ := List.mem_flatten.mp hf
      obtain ⟨d, hd, search⟩ := mem_of_mapM_ok searched hs
      obtain ⟨name, rfl⟩ := joined_of_subdirectories listed d hd
      exact below path name found (ih _ hd search found hf)

theorem unlistable_of_leavesBelow {path : String} {e : Failure}
    (h : fs.leavesBelow path = .error e) : ∃ below reason, e = .unlistable below reason := by
  induction path using leavesBelow.induct fs with
  | case1 path e' failed =>
    rw [leavesBelow_fails failed] at h
    cases h
    unfold subdirectories at failed
    split at failed
    · cases failed
      exact ⟨_, _, rfl⟩
    · cases failed
  | case2 path empty =>
    rw [leavesBelow_leaf empty] at h
    cases h
  | case3 path child children listed ih =>
    rw [leavesBelow_node listed] at h
    cases searched : (child :: children).mapM fs.leavesBelow with
    | error e' =>
      rw [searched] at h
      cases h
      obtain ⟨d, hd, failed⟩ := error_of_mapM_error searched
      exact ih d hd failed
    | ok founds =>
      rw [searched] at h
      cases h

theorem leaf_ne_empty {root : String} {leaves : List String} (named : root ≠ "")
    (h : fs.leaves root = .ok leaves) : ∀ leaf ∈ leaves, leaf ≠ "" := by
  unfold FileSystem.leaves at h
  split at h
  · intro leaf hl
    exact forall_leavesBelow (P := fun path found => path ≠ "" → found ≠ "") (fun _ => id)
      (fun path name found keeps ne => keeps (joinPath_ne_empty ne name)) h leaf hl named
  · cases h

theorem leaves_error {root : String} {e : Failure} (h : fs.leaves root = .error e) :
    e = .notDirectory root ∨ ∃ path reason, e = .unlistable path reason := by
  unfold FileSystem.leaves at h
  split at h
  · exact .inr (unlistable_of_leavesBelow h)
  · cases h
    exact .inl rfl

end FileSystem

end TestBench
