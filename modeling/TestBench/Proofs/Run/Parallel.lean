import TestBench.Proofs.Run.Pool

/-! Runs with several workers against runs of the same tests one after the other. Replies depend on
the command alone, so that the order of calls cannot change them. Both descriptions of a parallel
run are covered: the one by the order in which tests complete, and the one by moves of workers, in
which calls, blocks and records each have an order of their own. -/
namespace TestBench

/-- What a run with several workers owes to the run of the same tests in the order given. -/
structure RunResult.Refines (settings : Settings) (extraArgs : List String)
    (reply : String → Reply) (tests : List Test) (r s : RunResult) : Prop where
  stops_iff : r.stop.isSome ↔ s.stop.isSome
  unresolved : ∀ e, r.stop = some e → ∃ t ∈ tests, ∃ code output,
    reply (settings.tool.commandLine t extraArgs) = .exited code output ∧
    code ≠ settings.exitCodes.success ∧ code ≠ settings.exitCodes.failure ∧
    e = .failure (.unresolvedStatus t.id t.path code)
  rearranges : s.stop = none → r.Rearranges s
  in_order : s.stop = none → tests.Pairwise (fun a b => a.id < b.id) → r.stats.Same s.stats

/-- An executor that replies by a function of the command, and does nothing else. -/
def Executor.answering (reply : String → Reply) : Executor Unit :=
  fun command => pure (.ok (reply command))

theorem answers_answering (reply : String → Reply) : (Executor.answering reply).Answers reply :=
  fun _ _ => rfl

variable {settings : Settings} {extraArgs : List String} {reply : String → Reply}

variable (settings extraArgs) in
theorem runFrom_stops_or_collects {σ : Type} {exec : Executor σ} (answers : exec.Answers reply)
    (ts : List Test) (distinct : (ts.map Test.id).Nodup) (w : σ) :
    let r := ((RunResult.runFrom settings extraArgs exec ts.length 0 {} ts).run w).1
    (∀ e, r.stop = some e → ∃ t ∈ ts, (Trial.under settings extraArgs reply t).stop? = some e) ∧
      (r.stop = none → r.Collected settings extraArgs reply ts) := by
  have run := runFrom_eq_ofTrials settings extraArgs exec ts.length ts [] w distinct
  rw [trials_of_answers settings extraArgs answers] at run
  have stop := congrArg RunResult.stop run
  rw [stop_ofTrials] at stop
  change ((RunResult.runFrom settings extraArgs exec ts.length 0 {} ts).run w).1.stop = _ at stop
  refine ⟨?_, ?_⟩
  · intro e h
    rw [stop] at h
    obtain ⟨u, hu, he⟩ := List.exists_of_findSome?_eq_some h
    obtain ⟨t, ht, rfl⟩ := List.mem_map.mp hu
    exact ⟨t, ht, he⟩
  · intro h
    rw [stop, List.findSome?_eq_none_iff] at h
    exact runFrom_collected answers ts distinct
      (fun t ht => h _ (List.mem_map_of_mem ht)) w

/-- Two runs of the same tests, each of which stops at a test or records all of them in an order of
its own, agree up to that order. -/
theorem refines_of_collected {tests : List Test} {r s : RunResult}
    (distinct : (tests.map Test.id).Nodup)
    (declared : ∀ t ∈ tests, t.expected.isExpectation = true)
    (r_stops : ∀ e, r.stop = some e →
      ∃ t ∈ tests, (Trial.under settings extraArgs reply t).stop? = some e)
    (r_collects : r.stop = none →
      ∃ completed, completed.Perm tests ∧ r.Collected settings extraArgs reply completed)
    (s_stops : ∀ e, s.stop = some e →
      ∃ t ∈ tests, (Trial.under settings extraArgs reply t).stop? = some e)
    (s_collects : s.stop = none → s.Collected settings extraArgs reply tests) :
    RunResult.Refines settings extraArgs reply tests
      { r with stats := r.stats.sortById } s := by
  have stops_iff : r.stop = none ↔ s.stop = none := by
    constructor
    · intro h
      obtain ⟨completed, same, collected⟩ := r_collects h
      cases hs : s.stop with
      | none => rfl
      | some e =>
        obtain ⟨t, ht, he⟩ := s_stops e hs
        rw [collected.judged t (same.mem_iff.mpr ht)] at he
        cases he
    · intro h
      have collected := s_collects h
      cases hr : r.stop with
      | none => rfl
      | some e =>
        obtain ⟨t, ht, he⟩ := r_stops e hr
        rw [collected.judged t ht] at he
        cases he
  have rearranges : s.stop = none →
      RunResult.Rearranges { r with stats := r.stats.sortById } s := by
    intro h
    obtain ⟨completed, same, collected⟩ := r_collects (stops_iff.mpr h)
    exact rearranges_of_collected collected (s_collects h) same distinct
  constructor
  · simp only [Option.isSome_iff_ne_none, ne_eq, stops_iff]
  · intro e h
    obtain ⟨t, ht, he⟩ := r_stops e h
    obtain ⟨code, output, replied, success, failure, rfl⟩ := stop?_ofReply (declared t ht) he
    exact ⟨t, ht, code, output, replied, success, failure, rfl⟩
  · exact rearranges
  · intro h increasing
    have stats := (rearranges h).stats
    rw [(s_collects h).stats, sortById_ofTrials_of_increasing] at stats
    · rwa [(s_collects h).stats]
    · simpa only [List.map_map, Function.comp_def, Trial.under, test_ofReply, List.map_id'] using
        increasing

end TestBench
