import Mathlib.Data.List.Nodup
import TestBench.Proofs.Run.Trials

/-! Statistics up to the order in which tests are recorded. Ids that are pairwise distinct leave one
list in the order of ids only, so sorting makes equal what order alone told apart. -/
namespace TestBench

/-- Equality of statistics. The recorded ids are a set, whatever order they are kept in. -/
structure Stats.Same (a b : Stats) : Prop where
  tally : a.tally = b.tally
  count : a.count = b.count
  results : a.results = b.results
  failures : a.failures = b.failures
  successes : a.successes = b.successes
  errors : a.errors = b.errors
  recorded : ∀ id, id ∈ a.recorded ↔ id ∈ b.recorded

theorem sortById_pairwise (ts : List Test) :
    (Test.sortById ts).Pairwise fun a b => a.id ≤ b.id := by
  have h : (Test.sortById ts).Pairwise fun a b => decide (a.id ≤ b.id) = true :=
    List.pairwise_mergeSort (fun a b c hab hbc => by simp only [decide_eq_true_eq] at *; omega)
      (fun a b => by simp only [Bool.or_eq_true, decide_eq_true_eq]; omega) ts
  exact h.imp of_decide_eq_true

theorem sortById_increasing {ts : List Test} (distinct : (ts.map Test.id).Nodup) :
    (Test.sortById ts).Pairwise fun a b => a.id < b.id := by
  have ids : ((Test.sortById ts).map Test.id).Nodup :=
    ((List.mergeSort_perm ts _).map Test.id).nodup_iff.mpr distinct
  have apart : (Test.sortById ts).Pairwise fun a b => a.id ≠ b.id := List.pairwise_map.mp ids
  exact (sortById_pairwise ts).imp₂ (fun _ _ le ne => by omega) apart

theorem sortById_perm {xs ys : List Test} (same : xs.Perm ys)
    (distinct : (xs.map Test.id).Nodup) : Test.sortById xs = Test.sortById ys := by
  refine List.Perm.eq_of_pairwise ?_ (sortById_pairwise xs) (sortById_pairwise ys) ?_
  · intro a b ha hb hab hba
    have left : a ∈ xs := List.mem_mergeSort.mp ha
    have right : b ∈ xs := same.mem_iff.mpr (List.mem_mergeSort.mp hb)
    exact List.inj_on_of_nodup_map distinct left right (by omega)
  · exact (List.mergeSort_perm xs _).trans (same.trans (List.mergeSort_perm ys _).symm)

theorem sortById_of_increasing {ts : List Test} (h : ts.Pairwise fun a b => a.id < b.id) :
    Test.sortById ts = ts := by
  refine List.mergeSort_of_pairwise (h.imp ?_)
  intro a b hab
  exact decide_eq_true (Int.le_of_lt hab)

/-! The lists of tests in the statistics of trials follow the order of the trials. -/

theorem map_id_recorded_sublist (kind : Outcome → Bool) (ts : List Trial) :
    ((ts.filterMap (Trial.recorded? kind)).map Test.id).Sublist (ts.map (·.test.id)) := by
  induction ts with
  | nil => exact .slnil
  | cons t ts ih =>
    rw [List.map_cons]
    cases h : t.recorded? kind with
    | none =>
      rw [List.filterMap_cons_none h]
      exact ih.cons _
    | some u =>
      have id : u.id = t.test.id := by
        obtain ⟨o, -, rfl⟩ := Option.map_eq_some_iff.mp h
        rfl
      rw [List.filterMap_cons_some h, List.map_cons, id]
      exact ih.cons_cons _

theorem map_id_errors_sublist (ts : List Trial) :
    ((Stats.ofTrials ts).errors.map Test.id).Sublist (ts.map (·.test.id)) := by
  simp only [Stats.ofTrials, List.map_map]
  exact List.filter_sublist.map _

/-- Statistics of the same trials agree once they are sorted. -/
theorem sortById_ofTrials_perm {ts us : List Trial} (same : ts.Perm us)
    (distinct : (ts.map (·.test.id)).Nodup) :
    (Stats.ofTrials ts).sortById.Same (Stats.ofTrials us).sortById := by
  have lists (kind : Outcome → Bool) :
      Test.sortById (ts.filterMap (Trial.recorded? kind)) =
        Test.sortById (us.filterMap (Trial.recorded? kind)) :=
    sortById_perm (same.filterMap _) (distinct.sublist (map_id_recorded_sublist kind ts))
  constructor
  · simp only [Stats.sortById, Stats.ofTrials, same.countP_eq]
  · exact same.countP_eq _
  · exact lists _
  · exact lists _
  · exact lists _
  · exact sortById_perm ((same.filter _).map _) (distinct.sublist (map_id_errors_sublist ts))
  · intro id
    exact ((same.filter _).map _).mem_iff

theorem sortById_ofTrials_of_increasing {ts : List Trial}
    (increasing : (ts.map (·.test)).Pairwise fun a b => a.id < b.id) :
    (Stats.ofTrials ts).sortById = Stats.ofTrials ts := by
  have ids : (ts.map (·.test.id)).Pairwise (· < ·) := by
    simpa only [List.pairwise_map] using increasing
  have lists (xs : List Test) (h : (xs.map Test.id).Sublist (ts.map (·.test.id))) :
      Test.sortById xs = xs :=
    sortById_of_increasing (List.pairwise_map.mp (ids.sublist h))
  simp only [Stats.sortById]
  rw [lists _ (map_id_errors_sublist ts)]
  simp only [Stats.ofTrials]
  rw [lists _ (map_id_recorded_sublist _ ts), lists _ (map_id_recorded_sublist _ ts),
    lists _ (map_id_recorded_sublist _ ts)]

end TestBench
