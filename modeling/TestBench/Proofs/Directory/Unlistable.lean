import TestBench.Proofs.Directory.Search

/-! Searches that fail. A search comes to a directory before it comes to what lies in it, and takes
the entries of a directory by their names: lists of names in lexicographic order are the ways down
in the order of the search. It fails at the first of them that leads to a directory it cannot
list. -/
namespace TestBench

section Each

variable {α β : Type} {f : α → Except Failure β}

theorem ok_of_mapM_ok {xs : List α} {ys : List β} (h : xs.mapM f = .ok ys) :
    ∀ x ∈ xs, ∃ y, f x = .ok y := by
  induction xs generalizing ys with
  | nil => simp
  | cons x xs ih =>
    rw [List.mapM_cons] at h
    cases first : f x with
    | error e =>
      rw [first] at h
      cases h
    | ok y =>
      cases others : xs.mapM f with
      | error e =>
        rw [first, others] at h
        cases h
      | ok ys =>
        intro z hz
        rcases List.mem_cons.mp hz with rfl | hz
        · exact ⟨y, first⟩
        · exact ih others z hz

theorem split_of_mapM_error {e : Failure} {xs : List α} (h : xs.mapM f = .error e) :
    ∃ before x after, xs = before ++ x :: after ∧ (∀ y ∈ before, ∃ z, f y = .ok z) ∧
      f x = .error e := by
  induction xs with
  | nil => cases h
  | cons x xs ih =>
    rw [List.mapM_cons] at h
    cases first : f x with
    | error e' =>
      rw [first] at h
      cases h
      exact ⟨[], x, xs, rfl, by simp, first⟩
    | ok y =>
      cases others : xs.mapM f with
      | ok ys =>
        rw [first, others] at h
        cases h
      | error e' =>
        rw [first, others] at h
        cases h
        obtain ⟨before, z, after, rfl, fine, failed⟩ := ih others
        exact ⟨x :: before, z, after, rfl, List.forall_mem_cons.mpr ⟨⟨y, first⟩, fine⟩, failed⟩

end Each

namespace Lookup

/-- The names lead down to a directory that cannot be listed. -/
structure Blocked (fs : Lookup) (path : String) (names : List String) (reason : String) : Prop where
  descends : fs.Descends path names
  unlistable : fs.list (joinNames path names) = .error reason

/-- Of all ways down to a directory that cannot be listed, this is the one that a search comes to
first. -/
structure FirstBlocked (fs : Lookup) (path : String) (names : List String) (reason : String) :
    Prop where
  blocked : fs.Blocked path names reason
  first : ∀ others why, fs.Blocked path others why → ¬ others < names

variable {fs : Lookup} {path name reason : String} {names others : List String}

theorem blocked_nil : fs.Blocked path [] reason ↔ fs.list path = .error reason :=
  ⟨fun h => h.unlistable, fun h => ⟨.here path, h⟩⟩

theorem blocked_cons :
    fs.Blocked path (name :: names) reason ↔
      fs.Eligible path name ∧ fs.Blocked (joinPath path name) names reason := by
  constructor
  · rintro ⟨descends, unlistable⟩
    obtain ⟨eligible, rest⟩ := descends_cons.mp descends
    exact ⟨eligible, rest, unlistable⟩
  · rintro ⟨eligible, rest, unlistable⟩
    exact ⟨.down eligible rest, unlistable⟩

theorem Listable.not_blocked (listable : fs.Listable path) : ¬ fs.Blocked path names reason := by
  intro blocked
  obtain ⟨listing, listed⟩ := listable names blocked.descends
  rw [blocked.unlistable] at listed
  cases listed

/-- What cannot be listed has no entries, so nothing is blocked behind it. -/
theorem firstBlocked_nil (unlistable : fs.list path = .error reason) :
    fs.FirstBlocked path [] reason :=
  ⟨blocked_nil.mpr unlistable, fun others _ _ => List.not_lt_nil others⟩

theorem FirstBlocked.unique {why : String} (here : fs.FirstBlocked path names reason)
    (there : fs.FirstBlocked path others why) : names = others ∧ reason = why := by
  have same : names = others := List.le_antisymm (here.first others why there.blocked)
    (there.first names reason here.blocked)
  subst same
  have told := here.blocked.unlistable
  rw [there.blocked.unlistable] at told
  cases told
  exact ⟨rfl, rfl⟩

end Lookup

namespace FileSystem

variable {fs : FileSystem} {path : String}

theorem leavesBelow_unlistable {reason : String} (unlistable : fs.list path = .error reason) :
    fs.leavesBelow path = .error (.unlistable path reason) := by
  apply leavesBelow_fails
  simp only [subdirectories, unlistable]

theorem listable_of_leavesBelow {leaves : List String} (found : fs.leavesBelow path = .ok leaves) :
    fs.Listable path := by
  induction path using descent_induction fs generalizing leaves with
  | step path ih =>
    cases listed : fs.list path with
    | error reason =>
      rw [leavesBelow_unlistable listed] at found
      cases found
    | ok listing =>
      rintro (_ | ⟨name, names⟩) descends
      · exact ⟨listing, listed⟩
      · obtain ⟨eligible, rest⟩ := Lookup.descends_cons.mp descends
        have entry := (mem_entered listed).mpr eligible
        rw [leavesBelow_listed listed, if_neg (List.ne_nil_of_mem entry)] at found
        cases searched : (fs.entered path listing).mapM fun name =>
            fs.leavesBelow (joinPath path name) with
        | error e =>
          rw [searched] at found
          cases found
        | ok parts =>
          obtain ⟨part, inner⟩ := ok_of_mapM_ok searched name entry
          exact ih name eligible inner names rest

theorem firstBlocked_of_leavesBelow (proper : fs.ProperListings) {e : Failure}
    (failed : fs.leavesBelow path = .error e) :
    ∃ names reason, fs.FirstBlocked path names reason ∧
      e = .unlistable (joinNames path names) reason := by
  induction path using descent_induction fs generalizing e with
  | step path ih =>
    cases listed : fs.list path with
    | error reason =>
      rw [leavesBelow_unlistable listed] at failed
      cases failed
      exact ⟨[], reason, Lookup.firstBlocked_nil listed, rfl⟩
    | ok listing =>
      rw [leavesBelow_listed listed] at failed
      split at failed
      · cases failed
      · cases searched : (fs.entered path listing).mapM fun name =>
            fs.leavesBelow (joinPath path name) with
        | ok parts =>
          rw [searched] at failed
          cases failed
        | error e' =>
          rw [searched] at failed
          cases failed
          obtain ⟨before, name, after, split, fine, inner⟩ := split_of_mapM_error searched
          have increasing := entered_increasing fs path (proper path listing listed).1
          rw [split] at increasing
          have entry : name ∈ fs.entered path listing := by simp [split]
          have eligible := (mem_entered listed).mp entry
          obtain ⟨names, reason, here, rfl⟩ := ih name eligible inner
          refine ⟨name :: names, reason, ⟨Lookup.blocked_cons.mpr ⟨eligible, here.blocked⟩, ?_⟩, rfl⟩
          rintro (_ | ⟨other, others⟩) why blocked
          · rw [Lookup.blocked_nil, listed] at blocked
            cases blocked
          · -- entries before this one hold nothing blocked, and those behind it come later
            obtain ⟨visible, deeper⟩ := Lookup.blocked_cons.mp blocked
            have member := (mem_entered listed).mpr visible
            rw [split] at member
            rw [List.cons_lt_cons_iff]
            rcases List.mem_append.mp member with earlier | later
            · obtain ⟨found, searched⟩ := fine other earlier
              exact absurd deeper (listable_of_leavesBelow searched).not_blocked
            · rcases List.mem_cons.mp later with rfl | later
              · rintro (less | ⟨-, less⟩)
                · exact String.lt_irrefl _ less
                · exact here.first others why deeper less
              · have behind := (List.pairwise_append.mp increasing).2.1
                have greater := List.rel_of_pairwise_cons behind later
                rintro (less | ⟨rfl, -⟩)
                · exact String.lt_asymm greater less
                · exact String.lt_irrefl _ greater

/-- A search from a directory fails exactly if something is blocked, and then at the first. -/
theorem leavesBelow_error_iff (proper : fs.ProperListings) {e : Failure} :
    fs.leavesBelow path = .error e ↔
      ∃ names reason, fs.FirstBlocked path names reason ∧
        e = .unlistable (joinNames path names) reason := by
  constructor
  · exact firstBlocked_of_leavesBelow proper
  · rintro ⟨names, reason, here, rfl⟩
    cases searched : fs.leavesBelow path with
    | ok leaves => exact absurd here.blocked (listable_of_leavesBelow searched).not_blocked
    | error e =>
      obtain ⟨others, why, there, rfl⟩ := firstBlocked_of_leavesBelow proper searched
      obtain ⟨rfl, rfl⟩ := here.unique there
      rfl

theorem leavesBelow_fails_iff (proper : fs.ProperListings) :
    (∃ e, fs.leavesBelow path = .error e) ↔ ∃ names reason, fs.Blocked path names reason := by
  constructor
  · rintro ⟨e, failed⟩
    obtain ⟨names, reason, here, -⟩ := firstBlocked_of_leavesBelow proper failed
    exact ⟨names, reason, here.blocked⟩
  · rintro ⟨names, reason, blocked⟩
    cases searched : fs.leavesBelow path with
    | ok leaves => exact absurd blocked (listable_of_leavesBelow searched).not_blocked
    | error e => exact ⟨e, rfl⟩

end FileSystem

end TestBench
