import TestBench.Proofs.Run.Pool

/-! Runs that come to their end, whatever the calls are answered with. Every test has then been
recorded or noted as one that could not be run, so the statistics can be read off the tests as the
run leaves them. -/
namespace TestBench

/-- The statistics of a run, list by list, are those of the tests that it leaves, in the order of
ids, and these are the tests it was given. -/
structure RunResult.Records (tests : List Test) (r : RunResult) : Prop where
  given : (r.tests.map fun t => { t with result := none }).Perm tests
  failures : r.stats.failures =
    Test.sortById (r.tests.filter fun t => t.result.any Outcome.isFailure)
  successes : r.stats.successes =
    Test.sortById (r.tests.filter fun t => t.result.any (!·.isFailure))
  errors : r.stats.errors = Test.sortById (r.tests.filter fun t => t.result.isNone)
  counter : ∀ o, r.stats.counter o = r.tests.countP fun t => t.result == some o
  count : r.stats.count = r.tests.countP fun t => t.result.isSome

section Left

variable {us : List Trial} (unrun : ∀ u ∈ us, u.test.result = none)
include unrun

theorem result_done {u : Trial} (mem : u ∈ us) : u.done.result = u.outcome? := by
  rw [done_of_unrun (unrun u mem)]

theorem given_done :
    (us.map Trial.done).map (fun t => { t with result := none }) = us.map (·.test) := by
  rw [List.map_map]
  refine List.map_congr_left fun u mem => ?_
  rw [Function.comp_apply, done_of_unrun (unrun u mem)]
  exact Test.unrun_eq (unrun u mem)

theorem filterMap_recorded (kind : Outcome → Bool) :
    us.filterMap (Trial.recorded? kind) =
      (us.map Trial.done).filter fun t => t.result.any kind := by
  rw [← List.filterMap_eq_filter, List.filterMap_map]
  refine List.filterMap_congr fun u mem => ?_
  have done := done_of_unrun (unrun u mem)
  cases outcome : u.outcome? with
  | none => simp [Trial.recorded?, Option.guard, done, outcome]
  | some o =>
    rw [recorded?_of_outcome outcome]
    simp [Option.guard, done, outcome, Test.withResult]

theorem filter_unlaunched :
    (us.filter (·.outcome?.isNone)).map (·.test) =
      (us.map Trial.done).filter fun t => t.result.isNone := by
  have same : us.filter (fun u => u.done.result.isNone) = us.filter (·.outcome?.isNone) :=
    List.filter_congr fun u mem => by rw [result_done unrun mem]
  rw [List.filter_map, Function.comp_def, same]
  refine List.map_congr_left fun u mem => ?_
  have unlaunched : u.outcome? = none := by simpa using (List.mem_filter.mp mem).2
  unfold Trial.done
  rw [unlaunched]
  rfl

theorem countP_outcomes (kind : Option Outcome → Bool) :
    us.countP (fun u => kind u.outcome?) = (us.map Trial.done).countP fun t => kind t.result := by
  rw [List.countP_map]
  refine List.countP_congr fun u mem => ?_
  simp only [Function.comp_apply, result_done unrun mem]

omit unrun in
theorem records_of_trials {tests : List Test} {r : RunResult}
    (given : (us.map (·.test)).Perm tests) (fresh : ∀ t ∈ tests, t.result = none)
    (left : r.tests = us.map Trial.done) (stats : r.stats = (Stats.ofTrials us).sortById) :
    r.Records tests := by
  have unrun : ∀ u ∈ us, u.test.result = none := fun u mem =>
    fresh u.test (given.mem_iff.mp (List.mem_map_of_mem mem))
  constructor
  · rw [left, given_done unrun]
    exact given
  · rw [stats, left]
    exact congrArg Test.sortById (filterMap_recorded unrun Outcome.isFailure)
  · rw [stats, left]
    exact congrArg Test.sortById (filterMap_recorded unrun (!·.isFailure))
  · rw [stats, left]
    exact congrArg Test.sortById (filter_unlaunched unrun)
  · intro o
    rw [stats, left, ← countP_outcomes unrun (· == some o)]
    cases o <;> rfl
  · rw [stats, left]
    exact countP_outcomes unrun Option.isSome

end Left

section Runs

variable {σ : Type} {settings : Settings} {extraArgs : List String} {exec : Executor σ}

theorem trials_of_ended {ts : List Test} (distinct : (ts.map Test.id).Nodup) {total : Nat} {w : σ}
    (ended : ((RunResult.runFrom settings extraArgs exec total 0 {} ts).run w).1.stop = none) :
    ∃ us : List Trial, us.map (·.test) = ts ∧
      ((RunResult.runFrom settings extraArgs exec total 0 {} ts).run w).1.tests =
        us.map Trial.done ∧
      ((RunResult.runFrom settings extraArgs exec total 0 {} ts).run w).1.stats =
        .ofTrials us := by
  have run := runFrom_eq_ofTrials settings extraArgs exec total ts [] w distinct
  change ((RunResult.runFrom settings extraArgs exec total 0 {} ts).run w).1 = _ at run
  rw [run] at ended ⊢
  rw [stop_ofTrials, List.findSome?_eq_none_iff] at ended
  have judged : ∀ u ∈ exec.trials settings extraArgs ts w, u.isJudged = true := fun u mem => by
    rw [Trial.isJudged, ended u mem]
    rfl
  have taken := List.takeWhile_eq_self_iff.mpr judged
  have dropped := List.dropWhile_eq_nil_iff.mpr judged
  refine ⟨exec.trials settings extraArgs ts w, map_test_trials settings extraArgs exec ts w, ?_, ?_⟩
  · simp only [RunResult.ofTrials, taken, dropped, List.map_nil, List.append_nil]
  · simp only [RunResult.ofTrials, taken, List.nil_append]

theorem records_of_run {ts : List Test} (increasing : ts.Pairwise fun a b => a.id < b.id)
    (fresh : ∀ t ∈ ts, t.result = none) {complete : List Test → List Test}
    (permutes : ∀ ts, (complete ts).Perm ts) {workers : Option Int} {w : σ}
    (ended : ((RunResult.run settings extraArgs exec complete workers ts).run w).1.stop = none) :
    ((RunResult.run settings extraArgs exec complete workers ts).run w).1.Records ts := by
  have distinct : (ts.map Test.id).Nodup := by
    rw [List.nodup_iff_pairwise_ne, List.pairwise_map]
    exact increasing.imp Int.ne_of_lt
  unfold RunResult.run at ended ⊢
  split at ended
  · rename_i several
    rw [if_pos several]
    have same := permutes ts
    obtain ⟨us, given, left, stats⟩ :=
      trials_of_ended ((same.map Test.id).nodup_iff.mpr distinct) ended
    refine records_of_trials (given ▸ same) fresh left ?_
    exact congrArg Stats.sortById stats
  · rename_i single
    rw [if_neg single]
    obtain ⟨us, given, left, stats⟩ := trials_of_ended distinct ended
    refine records_of_trials (.of_eq given) fresh left ?_
    rw [sortById_ofTrials_of_increasing (given ▸ increasing)]
    exact stats

namespace Pool

/-- What every move keeps as long as nothing has stopped the run: the tests are shared out among the
lists of the pool and the trials collected, and the result is that of these trials. -/
def Shares (tests : List Test) (p : Pool σ) : Prop :=
  p.result.stop = none → ∃ collected : List Trial,
    (p.waiting ++ (p.running ++ p.ended ++ collected).map (·.test)).Perm tests ∧
    p.result.tests = collected.map Trial.done ∧ p.result.stats = .ofTrials collected

theorem shares_start (tests : List Test) (w : σ) :
    Shares tests ({ waiting := tests, world := w } : Pool σ) :=
  fun _ => ⟨[], by simp, rfl, rfl⟩

theorem shares_move {tests : List Test} (distinct : (tests.map Test.id).Nodup)
    {workers total : Nat} {m : Move} {p q : Pool σ} (shares : Shares tests p)
    (moved : p.move settings extraArgs exec workers total m = some q) : Shares tests q := by
  rcases move_cases moved with ⟨t, rest, waiting, -, rfl⟩ | ⟨place, u, found, rfl⟩ |
    ⟨place, u, goesOn, found, rfl⟩ | ⟨place, t, e, stop, found, rfl⟩
  · intro goesOn
    obtain ⟨collected, same, left, stats⟩ := shares goesOn
    refine ⟨collected, ?_, left, stats⟩
    refine List.perm_iff_count.mpr fun x => ?_
    have before := same.count_eq x
    simp only [waiting, List.map_append, List.map_cons, List.map_nil, test_ofAnswer,
      List.count_append, List.count_cons, List.count_nil] at before ⊢
    omega
  · intro goesOn
    obtain ⟨collected, same, left, stats⟩ := shares goesOn
    refine ⟨collected, ?_, left, stats⟩
    refine List.perm_iff_count.mpr fun x => ?_
    have before := same.count_eq x
    have moved := ((eraseIdx_perm found).map (·.test)).count_eq x
    simp only [List.map_append, List.map_cons, List.map_nil, List.count_append, List.count_cons,
      List.count_nil] at before moved ⊢
    omega
  · obtain ⟨collected, same, left, stats⟩ := shares goesOn
    cases judged : u.stop? with
    | some e =>
      rw [collect_of_unjudged _ judged]
      rintro ⟨⟩
    | none =>
      have ids := ((same.map Test.id).nodup_iff.mpr distinct)
      have fresh : u.test.id ∉ collected.map (·.test.id) := by
        intro known
        have mine : u ∈ p.ended := List.mem_of_getElem? found
        obtain ⟨v, hv, same_id⟩ := List.mem_map.mp known
        simp only [List.map_append, List.map_map] at ids
        exact (List.nodup_append.mp (List.nodup_append.mp ids).2.1).2.2 u.test.id
          (List.mem_append_right _ (List.mem_map_of_mem mine)) v.test.id
          (List.mem_map_of_mem hv) same_id.symm
      rw [collect_of_judged total stats judged fresh]
      refine fun _ => ⟨collected ++ [u], ?_, by simp [left], rfl⟩
      refine List.perm_iff_count.mpr fun x => ?_
      have before := same.count_eq x
      have moved := ((eraseIdx_perm found).map (·.test)).count_eq x
      simp only [List.map_append, List.map_cons, List.map_nil, List.count_append, List.count_cons,
        List.count_nil] at before moved ⊢
      omega
  · intro goesOn
    have stopped : p.result.stop = none := goesOn
    rw [stop] at stopped
    cases stopped

theorem shares_run {tests : List Test} (distinct : (tests.map Test.id).Nodup)
    {workers total : Nat} {moves : List Move} {p q : Pool σ} (shares : Shares tests p)
    (ran : run settings extraArgs exec workers total moves p = some q) : Shares tests q := by
  induction moves generalizing p with
  | nil =>
    cases ran
    exact shares
  | cons m moves ih =>
    simp only [run] at ran
    split at ran
    · cases ran
    · rename_i next moved
      exact ih (shares_move distinct shares moved) ran

theorem records_of_pool {tests : List Test} (distinct : (tests.map Test.id).Nodup)
    (fresh : ∀ t ∈ tests, t.result = none) {workers total : Nat} {moves : List Move} {w : σ}
    {p : Pool σ}
    (ran : run settings extraArgs exec workers total moves { waiting := tests, world := w } =
      some p)
    (done : p.isDone = true) (ended : p.outcome.stop = none) : p.outcome.Records tests := by
  have goesOn : p.result.stop = none := ended
  obtain ⟨collected, same, left, stats⟩ := shares_run distinct (shares_start tests w) ran goesOn
  simp only [isDone, goesOn, Option.isSome_none, Bool.or_false, Bool.and_eq_true,
    List.isEmpty_iff] at done
  obtain ⟨⟨waiting, running⟩, ended⟩ := done
  rw [waiting, running, ended] at same
  exact records_of_trials same fresh left (congrArg Stats.sortById stats)

end Pool

end Runs

end TestBench
