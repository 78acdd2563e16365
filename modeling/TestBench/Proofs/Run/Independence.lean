import TestBench.Proofs.Run.Parallel
import TestBench.Proofs.Run.Replies
import TestBench.Proofs.Session.Selection

/-! Runs of some of the tests, and of the tests in another order. A reply depends on the command
alone, so each test has one trial whatever is run before it; what a run leaves is read off its
trials, list by list, and so follows the tests it was given. -/
namespace TestBench

theorem filter_ids_of_sublist {part tests : List Test} (sub : part.Sublist tests)
    (distinct : (tests.map Test.id).Nodup) :
    tests.filter (fun t => t.id ∈ part.map Test.id) = part := by
  induction sub with
  | slnil => rfl
  | @cons part tests t sub ih =>
    obtain ⟨fresh, others⟩ := List.nodup_cons.mp distinct
    have left_out : t.id ∉ part.map Test.id := fun mem => fresh ((sub.map Test.id).subset mem)
    rw [List.filter_cons_of_neg (by simpa using left_out), ih others]
  | @cons_cons part tests t sub ih =>
    obtain ⟨fresh, others⟩ := List.nodup_cons.mp distinct
    rw [List.filter_cons_of_pos (by simp)]
    have apart : tests.filter (fun u => u.id ∈ (t :: part).map Test.id) =
        tests.filter (fun u => u.id ∈ part.map Test.id) := by
      refine List.filter_congr fun u mem => ?_
      have other : u.id ≠ t.id := fun same => fresh (same ▸ List.mem_map_of_mem mem)
      simp [other]
    rw [apart, ih others]

theorem id_done (u : Trial) : u.done.id = u.test.id := by
  unfold Trial.done
  cases u.outcome? <;> rfl

namespace Stats

/-! The statistics of some of the trials, picked by the ids of their tests. -/

section Picked

variable (pick : Int → Bool) (us : List Trial)

theorem filterMap_recorded_filter (kind : Outcome → Bool) :
    (us.filter fun u => pick u.test.id).filterMap (Trial.recorded? kind) =
      (us.filterMap (Trial.recorded? kind)).filter fun t => pick t.id := by
  induction us with
  | nil => rfl
  | cons u us ih =>
    cases made : u.recorded? kind with
    | none =>
      rw [List.filterMap_cons_none made, ← ih]
      cases picked : pick u.test.id <;> simp [picked, made]
    | some t =>
      have id : t.id = u.test.id := by
        obtain ⟨o, -, rfl⟩ := Option.map_eq_some_iff.mp made
        rfl
      rw [List.filterMap_cons_some made]
      cases picked : pick u.test.id <;> simp [picked, made, id, ih]

theorem errors_filter :
    (ofTrials (us.filter fun u => pick u.test.id)).errors =
      (ofTrials us).errors.filter fun t => pick t.id := by
  simp only [ofTrials, List.filter_map, List.filter_filter, Function.comp_def, Bool.and_comm]

theorem recorded_filter :
    (ofTrials (us.filter fun u => pick u.test.id)).recorded =
      (ofTrials us).recorded.filter pick := by
  simp only [ofTrials, List.filter_map, List.filter_filter, Function.comp_def, Bool.and_comm]

end Picked

theorem countP_recorded (us : List Trial) (o : Outcome) :
    ((ofTrials us).results.countP fun t => t.result == some o) =
      us.countP fun u => u.outcome? == some o := by
  simp only [ofTrials]
  induction us with
  | nil => rfl
  | cons u us ih =>
    cases outcome : u.outcome? with
    | none =>
      have unrecorded : u.recorded? (fun _ => true) = none := by simp [Trial.recorded?, outcome]
      rw [List.filterMap_cons_none unrecorded, ih]
      simp [outcome]
    | some p =>
      have made := recorded?_of_outcome outcome fun _ => true
      rw [List.filterMap_cons_some made, List.countP_cons, ih, List.countP_cons, outcome]
      rfl

theorem counter_ofTrials (us : List Trial) (o : Outcome) :
    (ofTrials us).counter o = (ofTrials us).results.countP fun t => t.result == some o := by
  rw [countP_recorded]
  cases o <;> rfl

theorem count_ofTrials (us : List Trial) :
    (ofTrials us).count = (ofTrials us).results.length := by
  simp only [ofTrials]
  induction us with
  | nil => rfl
  | cons u us ih =>
    cases outcome : u.outcome? with
    | none =>
      have unrecorded : u.recorded? (fun _ => true) = none := by simp [Trial.recorded?, outcome]
      rw [List.filterMap_cons_none unrecorded, ← ih]
      simp [outcome]
    | some p =>
      have made := recorded?_of_outcome outcome fun _ => true
      rw [List.filterMap_cons_some made, List.length_cons, ← ih]
      simp [outcome]

end Stats

namespace RunResult

/-- What a run of some tests owes to a run `s` that these tests are a part of. -/
structure Restricts (part : List Test) (r s : RunResult) : Prop where
  stop : r.stop = none
  given : r.trials.map (·.test) = part
  trials : r.trials = s.trials.filter fun u => u.test.id ∈ part.map Test.id
  tests : r.tests = s.tests.filter fun t => t.id ∈ part.map Test.id
  results : r.stats.results = s.stats.results.filter fun t => t.id ∈ part.map Test.id
  failures : r.stats.failures = s.stats.failures.filter fun t => t.id ∈ part.map Test.id
  successes : r.stats.successes = s.stats.successes.filter fun t => t.id ∈ part.map Test.id
  errors : r.stats.errors = s.stats.errors.filter fun t => t.id ∈ part.map Test.id
  recorded : r.stats.recorded = s.stats.recorded.filter (· ∈ part.map Test.id)
  counter : ∀ o, r.stats.counter o = r.stats.results.countP fun t => t.result == some o
  count : r.stats.count = r.stats.results.length

/-- What a run of the tests in another order owes to a run `s` of them. -/
structure Reorders (order : List Test) (r s : RunResult) : Prop where
  stop : r.stop = none
  given : r.trials.map (·.test) = order
  trials : r.trials.Perm s.trials
  tests : r.tests.Perm s.tests
  tally : r.stats.tally = s.stats.tally
  count : r.stats.count = s.stats.count
  results : r.stats.results.Perm s.stats.results
  failures : r.stats.failures.Perm s.stats.failures
  successes : r.stats.successes.Perm s.stats.successes
  errors : r.stats.errors.Perm s.stats.errors
  recorded : r.stats.recorded.Perm s.stats.recorded
  sorted : r.stats.sortById.Same s.stats.sortById

section Runs

variable {settings : Settings} {extraArgs : List String} {reply : String → Reply}

/-- Every test of a list was recorded, and the trials came in this order. -/
structure InOrder (settings : Settings) (extraArgs : List String) (reply : String → Reply)
    (r : RunResult) (ts : List Test) : Prop extends r.Collected settings extraArgs reply ts where
  trials_eq : r.trials = ts.map (Trial.under settings extraArgs reply)

theorem stop?_under {t : Test} (declared : t.expected.isExpectation = true)
    (resolved : ∀ code output, reply (settings.tool.commandLine t extraArgs) = .exited code output →
      code = settings.exitCodes.success ∨ code = settings.exitCodes.failure) :
    (Trial.under settings extraArgs reply t).stop? = none := by
  cases stop : (Trial.under settings extraArgs reply t).stop? with
  | none => rfl
  | some e =>
    obtain ⟨code, output, replied, success, failure, -⟩ := stop?_ofReply declared stop
    rcases resolved code output replied with known | known
    · exact absurd known success
    · exact absurd known failure

theorem inOrder_sequential {σ : Type} {exec : Executor σ} (answers : exec.Answers reply)
    {tests : List Test} (distinct : (tests.map Test.id).Nodup)
    (judged : ∀ t ∈ tests, (Trial.under settings extraArgs reply t).stop? = none) (w : σ) :
    ((sequential settings extraArgs exec tests).run w).1.InOrder settings extraArgs reply tests where
  toCollected := runFrom_collected answers tests distinct judged w
  trials_eq := by
    have run := runFrom_eq_ofTrials settings extraArgs exec tests.length tests [] w distinct
    rw [trials_of_answers settings extraArgs answers] at run
    have all : ∀ u ∈ tests.map (Trial.under settings extraArgs reply), u.isJudged = true := by
      intro u mem
      obtain ⟨t, ht, rfl⟩ := List.mem_map.mp mem
      simp only [Trial.isJudged, judged t ht, Option.isNone_none]
    have seen : ((sequential settings extraArgs exec tests).run w).1.trials = _ :=
      congrArg RunResult.trials run
    rw [seen, trials_ofTrials, List.takeWhile_eq_self_iff.mpr all,
      List.dropWhile_eq_nil_iff.mpr all]
    simp

theorem InOrder.given {r : RunResult} {ts : List Test}
    (inOrder : r.InOrder settings extraArgs reply ts) : r.trials.map (·.test) = ts := by
  rw [inOrder.trials_eq]
  simp only [List.map_map, Function.comp_def, Trial.under, test_ofReply, List.map_id']

theorem under_filter (pick : Int → Bool) (tests : List Test) :
    (tests.filter fun t => pick t.id).map (Trial.under settings extraArgs reply) =
      (tests.map (Trial.under settings extraArgs reply)).filter fun u => pick u.test.id := by
  simp only [List.filter_map, Function.comp_def, Trial.under, test_ofReply]

theorem restricts_of_inOrder {part tests : List Test} {r s : RunResult}
    (left : r.InOrder settings extraArgs reply part)
    (right : s.InOrder settings extraArgs reply tests) (sub : part.Sublist tests)
    (distinct : (tests.map Test.id).Nodup) : r.Restricts part s := by
  have picked : part.map (Trial.under settings extraArgs reply) =
      (tests.map (Trial.under settings extraArgs reply)).filter fun u =>
        u.test.id ∈ part.map Test.id := by
    rw [← under_filter (fun id => decide (id ∈ part.map Test.id)),
      filter_ids_of_sublist sub distinct]
  constructor
  · exact left.stop
  · exact left.given
  · rw [left.trials_eq, right.trials_eq, picked]
  · rw [left.tests, right.tests, picked]
    simp only [List.filter_map, Function.comp_def, id_done]
  · rw [left.stats, right.stats, picked]
    exact Stats.filterMap_recorded_filter (fun id => decide (id ∈ part.map Test.id)) _ _
  · rw [left.stats, right.stats, picked]
    exact Stats.filterMap_recorded_filter (fun id => decide (id ∈ part.map Test.id)) _ _
  · rw [left.stats, right.stats, picked]
    exact Stats.filterMap_recorded_filter (fun id => decide (id ∈ part.map Test.id)) _ _
  · rw [left.stats, right.stats, picked]
    exact Stats.errors_filter (fun id => decide (id ∈ part.map Test.id)) _
  · rw [left.stats, right.stats, picked]
    exact Stats.recorded_filter (fun id => decide (id ∈ part.map Test.id)) _
  · rw [left.stats]
    exact Stats.counter_ofTrials _
  · rw [left.stats]
    exact Stats.count_ofTrials _

theorem reorders_of_inOrder {order tests : List Test} {r s : RunResult}
    (left : r.InOrder settings extraArgs reply order)
    (right : s.InOrder settings extraArgs reply tests) (same : order.Perm tests)
    (distinct : (tests.map Test.id).Nodup) : r.Reorders order s := by
  have trials := same.map (Trial.under settings extraArgs reply)
  constructor
  · exact left.stop
  · exact left.given
  · rw [left.trials_eq, right.trials_eq]
    exact trials
  · rw [left.tests, right.tests]
    exact trials.map _
  · rw [left.stats, right.stats]
    simp only [Stats.ofTrials, trials.countP_eq]
  · rw [left.stats, right.stats]
    exact trials.countP_eq _
  · rw [left.stats, right.stats]
    exact trials.filterMap _
  · rw [left.stats, right.stats]
    exact trials.filterMap _
  · rw [left.stats, right.stats]
    exact trials.filterMap _
  · rw [left.stats, right.stats]
    exact (trials.filter _).map _
  · rw [left.stats, right.stats]
    exact (trials.filter _).map _
  · rw [left.stats, right.stats]
    refine sortById_ofTrials_perm trials ?_
    rw [map_id_under]
    exact (same.map Test.id).nodup_iff.mpr distinct

end Runs

/-- Tests do not influence each other. If replies depend on the command alone and leave no test
without an outcome, a run of some of the tests leaves what a run of all of them leaves of these, and
a run in another order leaves the same up to order. -/
theorem runs_are_independent (settings : Settings) (extraArgs : List String)
    (reply : String → Reply) (tests : List Test) (distinct : (tests.map Test.id).Nodup)
    (declared : ∀ t ∈ tests, t.expected.isExpectation = true)
    (resolved : ∀ t ∈ tests, ∀ code output,
      reply (settings.tool.commandLine t extraArgs) = .exited code output →
        code = settings.exitCodes.success ∨ code = settings.exitCodes.failure)
    {σ τ : Type} {exec : Executor σ} (answers : exec.Answers reply) (w : σ)
    {other : Executor τ} (other_answers : other.Answers reply) (v : τ) :
    let s := ((sequential settings extraArgs exec tests).run w).1
    s.stop = none ∧ s.trials.map (·.test) = tests ∧
      (∀ part, part.Sublist tests →
        ((sequential settings extraArgs other part).run v).1.Restricts part s) ∧
      ∀ order, order.Perm tests →
        ((sequential settings extraArgs other order).run v).1.Reorders order s := by
  intro s
  have judged : ∀ t ∈ tests, (Trial.under settings extraArgs reply t).stop? = none :=
    fun t mem => stop?_under (declared t mem) (resolved t mem)
  have all : s.InOrder settings extraArgs reply tests := inOrder_sequential answers distinct judged w
  have itself := reorders_of_inOrder all all (.refl tests) distinct
  refine ⟨all.stop, itself.given, ?_, ?_⟩
  · intro part sub
    have ids : (part.map Test.id).Nodup := distinct.sublist (sub.map Test.id)
    have some_ := inOrder_sequential other_answers ids (fun t mem => judged t (sub.subset mem)) v
    exact restricts_of_inOrder some_ all sub distinct
  · intro order same
    have ids : (order.map Test.id).Nodup := (same.map Test.id).nodup_iff.mpr distinct
    have some_ :=
      inOrder_sequential other_answers ids (fun t mem => judged t (same.mem_iff.mp mem)) v
    exact reorders_of_inOrder some_ all same distinct

/-- Of three tests one fails and one finds no tool. A pattern picks two of them, and the third is put
in front. -/
theorem runs_are_independent_of_three :
    let reply : String → Reply := fun command =>
      if command = "rt --chow-args= --test=c --exit-on-failure" then .notLaunched "no tool"
      else if command = "rt --chow-args= --test=b --exit-on-failure" then .exited 99 "out\n"
      else .exited 0 ""
    let a : Test := ⟨1, "ab", "", .pass, "", none⟩
    let b : Test := ⟨2, "b", "", .xfail, "", none⟩
    let c : Test := ⟨3, "c", "", .pass, "", none⟩
    let exec := Executor.answering reply
    let s := ((sequential {} [] exec [a, b, c]).run ()).1
    ([a, b, c].map Test.id).Nodup ∧ (∀ t ∈ [a, b, c], t.expected.isExpectation = true) ∧
      (∀ t ∈ [a, b, c], ∀ code output,
        reply (Tool.commandLine {} t []) = .exited code output → code = 0 ∨ code = 99) ∧
      select ["B"] [a, b, c] = [a, b] ∧
      ((sequential {} [] exec [a, b]).run ()).1.Restricts [a, b] s ∧
      ((sequential {} [] exec [c, a, b]).run ()).1.Reorders [c, a, b] s := by
  intro reply a b c exec s
  have distinct : ([a, b, c].map Test.id).Nodup := by decide
  have declared : ∀ t ∈ [a, b, c], t.expected.isExpectation = true := by decide
  have resolved : ∀ t ∈ [a, b, c], ∀ code output,
      reply (Tool.commandLine {} t []) = .exited code output → code = 0 ∨ code = 99 := by
    intro t _ code output replied
    simp only [reply] at replied
    split at replied
    · cases replied
    · split at replied
      · cases replied
        exact .inr rfl
      · cases replied
        exact .inl rfl
  have selected : select ["B"] [a, b, c] = [a, b] := by decide +kernel
  obtain ⟨-, -, restricts, reorders⟩ := runs_are_independent {} [] reply [a, b, c] distinct declared
    resolved (answers_answering reply) () (answers_answering reply) ()
  have part : [a, b].Sublist [a, b, c] := selected ▸ select_sublist ["B"] [a, b, c]
  exact ⟨distinct, declared, resolved, selected, restricts [a, b] part,
    reorders [c, a, b] (by decide)⟩

end RunResult

end TestBench
