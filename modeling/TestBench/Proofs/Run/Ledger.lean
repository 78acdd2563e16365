import Mathlib.Logic.Function.Basic
import TestBench.Proofs.Run.Order

/-! Statistics over some tests after any history: records in any order, ids that repeat, tests that
are both recorded and noted as errors, and sorting in between. Of all records of one id the first
one counts and the others fail, so a history comes down to the list of its first records; sorting
rearranges that list, and everything in the statistics is read off it. -/
namespace TestBench

/-- Some tests and the statistics over them. A test is named by its place, since ids may repeat. -/
structure Ledger (n : Nat) where
  tests : Fin n → Test
  stats : Stats := {}

namespace Ledger

variable {n : Nat}

/-- What is done to statistics. -/
inductive Step (n : Nat) where
  | record (place : Fin n) (outcome : Outcome)
  | error (place : Fin n)
  | sort

/-- The ledger after a step, and what the step fails with. A test that is recorded gets its
outcome. -/
def step (l : Ledger n) : Step n → Ledger n × Option Fault
  | .record i o =>
    match l.stats.record (l.tests i) o with
    | .ok stats =>
      ({ tests := Function.update l.tests i ((l.tests i).withResult o), stats }, none)
    | .error f => (l, some f)
  | .error i => ({ l with stats := l.stats.addError (l.tests i) }, none)
  | .sort => ({ l with stats := l.stats.sortById }, none)

/-- The ledger after some steps; those that fail are passed. -/
def run (l : Ledger n) (steps : List (Step n)) : Ledger n :=
  steps.foldl (fun l s => (l.step s).1) l

def entry (tests : Fin n → Test) (e : Fin n × Outcome) : Test :=
  (tests e.1).withResult e.2

def note (tests : Fin n → Test) (past : List (Fin n × Outcome)) : Step n → List (Fin n × Outcome)
  | .record i o =>
    if (tests i).id ∈ past.map fun e => (tests e.1).id then past else past ++ [(i, o)]
  | .error _ | .sort => past

/-- The records among some steps that are the first of their ids. -/
def firstRecords (tests : Fin n → Test) (steps : List (Step n)) : List (Fin n × Outcome) :=
  steps.foldl (note tests) []

/-- A ledger over tests that holds some records, in this order. -/
structure Holds (tests : Fin n → Test) (records : List (Fin n × Outcome)) (l : Ledger n) :
    Prop where
  results : l.stats.results = records.map (entry tests)
  failures : l.stats.failures = (records.filter (·.2.isFailure)).map (entry tests)
  successes : l.stats.successes = (records.filter (!·.2.isFailure)).map (entry tests)
  counter : ∀ o, l.stats.counter o = records.countP (·.2 = o)
  count : l.stats.count = records.length
  recorded : ∀ id, id ∈ l.stats.recorded ↔ id ∈ l.stats.results.map Test.id
  distinct : (l.stats.results.map Test.id).Nodup
  outcomes : ∀ e ∈ records, l.tests e.1 = entry tests e
  unrecorded : ∀ i, i ∉ records.map Prod.fst → l.tests i = tests i

variable {tests : Fin n → Test} {records past : List (Fin n × Outcome)} {l : Ledger n}

theorem map_id_entries (records : List (Fin n × Outcome)) :
    (records.map (entry tests)).map Test.id = records.map fun e => (tests e.1).id := by
  simp only [List.map_map]
  rfl

theorem counter_add (t : Tally) (o p : Outcome) :
    (t.add o).get p = t.get p + if o = p then 1 else 0 := by
  cases o <;> cases p <;> rfl

theorem holds_start (tests : Fin n → Test) : Holds tests [] { tests } where
  results := rfl
  failures := rfl
  successes := rfl
  counter o := by cases o <;> rfl
  count := rfl
  recorded := by simp
  distinct := .nil
  outcomes := by simp
  unrecorded _ _ := rfl

theorem step_known {i : Fin n} (known : (l.tests i).id ∈ l.stats.recorded) (o : Outcome) :
    l.step (.record i o) = (l, some (.recordedTwice (l.tests i).id)) := by
  have present : l.stats.recorded.contains (l.tests i).id = true := by
    simpa [List.contains_eq_mem] using known
  simp only [step, Stats.record, present, if_true]

namespace Holds

variable (h : Holds tests records l)
include h

theorem id_eq (i : Fin n) : (l.tests i).id = (tests i).id := by
  by_cases hi : i ∈ records.map Prod.fst
  · obtain ⟨e, he, rfl⟩ := List.mem_map.mp hi
    rw [h.outcomes e he]
    rfl
  · rw [h.unrecorded i hi]

theorem mem_recorded_iff (i : Fin n) :
    (l.tests i).id ∈ l.stats.recorded ↔ (tests i).id ∈ records.map fun e => (tests e.1).id := by
  rw [h.id_eq, h.recorded, h.results, map_id_entries]

theorem step_new {i : Fin n} (new : (l.tests i).id ∉ l.stats.recorded) (o : Outcome) :
    (l.step (.record i o)).2 = none ∧
      Holds tests (records ++ [(i, o)]) (l.step (.record i o)).1 := by
  have absent : l.stats.recorded.contains (l.tests i).id = false := by
    simpa [List.contains_eq_mem] using new
  have fresh : i ∉ records.map Prod.fst := by
    intro hi
    obtain ⟨e, he, rfl⟩ := List.mem_map.mp hi
    exact new ((h.mem_recorded_iff e.1).mpr (List.mem_map.mpr ⟨e, he, rfl⟩))
  have same : (l.tests i).withResult o = entry tests (i, o) := by
    rw [h.unrecorded i fresh]
    rfl
  simp only [step, Stats.record, absent, Bool.false_eq_true, if_false, same]
  refine ⟨trivial, ?_, ?_, ?_, ?_, ?_, ?_, ?_, ?_, ?_⟩
  · simp [h.results]
  · cases o <;> simp [h.failures, Outcome.isFailure]
  · cases o <;> simp [h.successes, Outcome.isFailure]
  · intro p
    have before := h.counter p
    simp only [Stats.counter] at before ⊢
    rw [counter_add, before, List.countP_append]
    simp [List.countP_singleton]
  · simp [h.count]
  · intro id
    have before := h.recorded id
    simp [before, entry, Test.withResult, h.id_eq]
  · have unlisted : (tests i).id ∉ l.stats.results.map Test.id := by
      rw [← h.recorded, ← h.id_eq]
      exact new
    rw [List.map_append, List.map_singleton, List.nodup_append]
    refine ⟨h.distinct, by simp, ?_⟩
    intro a ha b hb
    rw [List.mem_singleton] at hb
    rintro rfl
    exact unlisted (hb ▸ ha)
  · intro e he
    rcases List.mem_append.mp he with he | he
    · have other : e.1 ≠ i := fun same => fresh (same ▸ List.mem_map_of_mem he)
      dsimp only
      rw [Function.update_of_ne other, h.outcomes e he]
    · rw [List.mem_singleton.mp he]
      exact Function.update_self i _ _
  · intro j hj
    simp only [List.map_append, List.map_singleton, List.mem_append, List.mem_singleton,
      not_or] at hj
    dsimp only
    rw [Function.update_of_ne hj.2, h.unrecorded j hj.1]

/-- Records in another order leave what a ledger holds as it is, apart from the order. -/
theorem perm {sorted : List (Fin n × Outcome)} (same : sorted.Perm records) {s : Stats}
    (results : s.results = sorted.map (entry tests))
    (failures : s.failures = (sorted.filter (·.2.isFailure)).map (entry tests))
    (successes : s.successes = (sorted.filter (!·.2.isFailure)).map (entry tests))
    (tally : s.tally = l.stats.tally) (count : s.count = l.stats.count)
    (recorded : s.recorded = l.stats.recorded) :
    Holds tests sorted { l with stats := s } := by
  have listed : (s.results.map Test.id).Perm (l.stats.results.map Test.id) := by
    rw [results, h.results]
    exact (same.map _).map _
  refine ⟨results, failures, successes, ?_, ?_, ?_, ?_, ?_, ?_⟩
  · intro o
    rw [same.countP_eq, ← h.counter o]
    simp only [Stats.counter, tally]
  · rw [same.length_eq, ← h.count]
    exact count
  · intro id
    rw [listed.mem_iff, ← h.recorded, ← recorded]
  · exact listed.nodup_iff.mpr h.distinct
  · exact fun e he => h.outcomes e (same.mem_iff.mp he)
  · exact fun i hi => h.unrecorded i fun mem => hi ((same.map Prod.fst).mem_iff.mpr mem)

/-- Sorting rearranges the records, and each list keeps what it holds of them. -/
theorem step_sort : ∃ sorted, sorted.Perm records ∧ Holds tests sorted (l.step .sort).1 := by
  obtain ⟨sorted, hs⟩ : ∃ sorted, sorted = records.mergeSort
      (fun a b => decide ((tests a.1).id ≤ (tests b.1).id)) := ⟨_, rfl⟩
  have same : sorted.Perm records := hs ▸ List.mergeSort_perm records _
  have distinct := h.distinct
  rw [h.results] at distinct
  have image : sorted.map (entry tests) = Test.sortById (records.map (entry tests)) := by
    rw [hs]
    exact List.map_mergeSort fun a _ b _ => rfl
  have lists (kind : Fin n × Outcome → Bool) :
      Test.sortById ((records.filter kind).map (entry tests)) =
        (sorted.filter kind).map (entry tests) := by
    have part : ((sorted.filter kind).map (entry tests)).Sublist (sorted.map (entry tests)) :=
      List.filter_sublist.map _
    rw [image] at part
    rw [sortById_perm ((same.symm.filter kind).map (entry tests))
      (distinct.sublist ((List.filter_sublist.map _).map _))]
    exact sortById_of_increasing ((sortById_increasing distinct).sublist part)
  refine ⟨sorted, same, h.perm same ?_ ?_ ?_ rfl rfl rfl⟩
  · rw [image, ← h.results]
    rfl
  · rw [← lists, ← h.failures]
    rfl
  · rw [← lists, ← h.successes]
    rfl

/-- A step keeps what a ledger holds, with the record it makes if that is the first of its id. -/
theorem step (same : records.Perm past) (s : Step n) :
    ∃ records', records'.Perm (note tests past s) ∧ Holds tests records' (l.step s).1 := by
  cases s with
  | record i o =>
    have listed := h.mem_recorded_iff i
    rw [(same.map _).mem_iff] at listed
    by_cases known : (l.tests i).id ∈ l.stats.recorded
    · rw [step_known known, note, if_pos (listed.mp known)]
      exact ⟨records, same, h⟩
    · rw [note, if_neg (mt listed.mpr known)]
      exact ⟨_, same.append_right _, (h.step_new known o).2⟩
  | error i => exact ⟨records, same, ⟨h.results, h.failures, h.successes, h.counter, h.count,
      h.recorded, h.distinct, h.outcomes, h.unrecorded⟩⟩
  | sort =>
    obtain ⟨sorted, rearranged, holds⟩ := h.step_sort
    exact ⟨sorted, rearranged.trans same, holds⟩

theorem run (same : records.Perm past) (steps : List (Step n)) :
    ∃ records', records'.Perm (steps.foldl (note tests) past) ∧
      Holds tests records' (l.run steps) := by
  induction steps generalizing l records past with
  | nil => exact ⟨records, same, h⟩
  | cons s steps ih =>
    obtain ⟨records', same', holds⟩ := h.step same s
    exact ih holds same'

theorem count_eq_sum : l.stats.count = l.stats.counter .pass + l.stats.counter .fail +
    l.stats.counter .xpass + l.stats.counter .xfail := by
  simp only [h.count, h.counter]
  clear h
  induction records with
  | nil => rfl
  | cons e records ih =>
    rcases e with ⟨i, o⟩
    cases o <;> simp [ih] <;> omega

end Holds

end Ledger

end TestBench
