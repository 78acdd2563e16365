import Mathlib.Data.List.TakeWhile
import TestBench.Proofs.Run.Order

/-! Runs in which every test was recorded, in some order. What such a run leaves is settled by that
order and by the trials; two orders of the same tests leave the same up to rearrangement. -/
namespace TestBench

namespace RunResult

/-- The trials of a run, in the order in which their blocks were written. -/
def trials (r : RunResult) : List Trial :=
  r.events.filterMap fun
    | .trial t => some t
    | .notice _ => none

def blocks (r : RunResult) : List String :=
  r.trials.map Trial.log

end RunResult

/-- What is reported of trials that are recorded when `k` of `total` tests have been. -/
def Notice.ofTrials (total k : Nat) (ts : List Trial) : List Notice :=
  ts.mapIdx fun i t => ⟨t.done, t.outcome?, TestBench.progress (k + i + 1) total⟩

theorem log_eq_join_blocks (r : RunResult) : r.log = String.join r.blocks := by
  simp only [RunResult.log, RunResult.blocks, RunResult.trials]
  induction r.events with
  | nil => rfl
  | cons e events ih =>
    cases e with
    | trial t => simp [String.join_cons, ih]
    | notice n => simpa [String.join_cons] using ih

theorem log_eq_join_lines (r : RunResult) :
    r.log = String.join ((r.trials.flatMap Trial.block).map (· ++ "\n")) := by
  rw [log_eq_join_blocks, RunResult.blocks]
  induction r.trials with
  | nil => rfl
  | cons u us ih =>
    rw [List.map_cons, String.join_cons, List.flatMap_cons, List.map_append, String.join_append, ih]
    rfl

theorem commands_eq_map_trials (r : RunResult) : r.commands = r.trials.map Trial.command := by
  simp only [RunResult.commands, RunResult.trials, List.map_filterMap]
  congr 1
  funext e
  cases e <;> rfl

theorem trials_of_events {r : RunResult} {total k : Nat} {ts : List Trial}
    (h : r.events = RunEvent.ofTrials total k ts) : r.trials = ts := by
  rw [RunResult.trials, h]
  clear h
  induction ts generalizing k with
  | nil => rfl
  | cons t ts ih => simp only [RunEvent.ofTrials, List.filterMap_cons, ih]

theorem notices_of_events {r : RunResult} {total k : Nat} {ts : List Trial}
    (h : r.events = RunEvent.ofTrials total k ts) : r.notices = Notice.ofTrials total k ts := by
  rw [RunResult.notices, h]
  clear h
  induction ts generalizing k with
  | nil => rfl
  | cons t ts ih =>
    have shift (i : Nat) : k + 1 + i + 1 = k + (i + 1) + 1 := by omega
    simp only [RunEvent.ofTrials, List.filterMap_cons, ih, Notice.ofTrials, List.mapIdx_cons,
      Nat.add_zero, shift]

theorem outcomes_ofTrials (total k : Nat) (ts : List Trial) :
    ((Notice.ofTrials total k ts).map fun n => (n.test, n.outcome)) =
      ts.map fun t => (t.done, t.outcome?) := by
  apply List.ext_getElem
  · simp [Notice.ofTrials]
  · simp [Notice.ofTrials]

theorem progress_ofTrials (total k : Nat) (ts : List Trial) :
    (Notice.ofTrials total k ts).map Notice.progress =
      (List.range ts.length).map fun i => progress (k + i + 1) total := by
  apply List.ext_getElem
  · simp [Notice.ofTrials]
  · simp [Notice.ofTrials]

theorem stop_ofTrials (total : Nat) (past ts : List Trial) :
    (RunResult.ofTrials total past ts).stop = ts.findSome? Trial.stop? := by
  simp only [RunResult.ofTrials]
  induction ts with
  | nil => rfl
  | cons t ts ih =>
    cases h : t.stop? with
    | none => simpa [Trial.isJudged, h] using ih
    | some e => simp [Trial.isJudged, h]

/-- One run does the work of another in an order of its own, with its statistics sorted. -/
structure RunResult.Rearranges (r s : RunResult) : Prop where
  stats : r.stats.Same s.stats.sortById
  tests : r.tests.Perm s.tests
  commands : r.commands.Perm s.commands
  log : ∃ blocks : List String, blocks.Perm s.blocks ∧ r.log = String.join blocks
  outcomes : (r.notices.map fun n => (n.test, n.outcome)).Perm
    (s.notices.map fun n => (n.test, n.outcome))
  progress : r.notices.map Notice.progress =
    (List.range s.tests.length).map fun k => TestBench.progress (k + 1) s.tests.length

section Collected

variable {settings : Settings} {extraArgs : List String} {reply : String → Reply}

variable (settings extraArgs reply) in
/-- Every test of a list was recorded, in this order. -/
structure RunResult.Collected (r : RunResult) (ts : List Test) : Prop where
  stop : r.stop = none
  judged : ∀ t ∈ ts, (Trial.under settings extraArgs reply t).stop? = none
  stats : r.stats = .ofTrials (ts.map (Trial.under settings extraArgs reply))
  tests : r.tests = (ts.map (Trial.under settings extraArgs reply)).map Trial.done
  trials : r.trials.Perm (ts.map (Trial.under settings extraArgs reply))
  notices : r.notices =
    Notice.ofTrials ts.length 0 (ts.map (Trial.under settings extraArgs reply))

theorem map_id_under (ts : List Test) :
    (ts.map (Trial.under settings extraArgs reply)).map (·.test.id) = ts.map Test.id := by
  simp only [List.map_map, Function.comp_def, Trial.under, test_ofReply]

theorem runFrom_collected {σ : Type} {exec : Executor σ} (answers : exec.Answers reply)
    (ts : List Test) (distinct : (ts.map Test.id).Nodup)
    (judged : ∀ t ∈ ts, (Trial.under settings extraArgs reply t).stop? = none) (w : σ) :
    ((RunResult.runFrom settings extraArgs exec ts.length 0 {} ts).run w).1.Collected
      settings extraArgs reply ts := by
  have run := runFrom_eq_ofTrials settings extraArgs exec ts.length ts [] w distinct
  rw [trials_of_answers settings extraArgs answers] at run
  have all : ∀ u ∈ ts.map (Trial.under settings extraArgs reply), u.isJudged = true := by
    intro u hu
    obtain ⟨t, ht, rfl⟩ := List.mem_map.mp hu
    simp only [Trial.isJudged, judged t ht, Option.isNone_none]
  have taken := List.takeWhile_eq_self_iff.mpr all
  have dropped := List.dropWhile_eq_nil_iff.mpr all
  change ((RunResult.runFrom settings extraArgs exec ts.length 0 {} ts).run w).1 = _ at run
  rw [run]
  have events : (RunResult.ofTrials ts.length []
      (ts.map (Trial.under settings extraArgs reply))).events =
        RunEvent.ofTrials ts.length 0 (ts.map (Trial.under settings extraArgs reply)) := by
    simp [RunResult.ofTrials, taken, dropped]
  constructor
  · simp [RunResult.ofTrials, dropped]
  · exact judged
  · simp [RunResult.ofTrials, taken]
  · simp [RunResult.ofTrials, taken, dropped]
  · rw [trials_of_events events]
  · exact notices_of_events events

theorem rearranges_of_collected {r s : RunResult} {ts us : List Test}
    (left : r.Collected settings extraArgs reply ts)
    (right : s.Collected settings extraArgs reply us)
    (same : ts.Perm us) (distinct : (us.map Test.id).Nodup) :
    RunResult.Rearranges { r with stats := r.stats.sortById } s := by
  have trials := same.map (Trial.under settings extraArgs reply)
  have written : r.trials.Perm s.trials := left.trials.trans (trials.trans right.trials.symm)
  constructor
  · rw [left.stats, right.stats]
    refine sortById_ofTrials_perm trials ?_
    rw [map_id_under]
    exact (same.map Test.id).nodup_iff.mpr distinct
  · rw [left.tests, right.tests]
    exact trials.map _
  · simp only [commands_eq_map_trials]
    exact written.map _
  · exact ⟨r.blocks, written.map _, log_eq_join_blocks r⟩
  · have reported := left.notices
    simp only [RunResult.notices] at reported
    rw [right.notices, RunResult.notices, reported, outcomes_ofTrials, outcomes_ofTrials]
    exact trials.map _
  · have reported := left.notices
    simp only [RunResult.notices] at reported
    rw [RunResult.notices, reported, progress_ofTrials, right.tests]
    simp [same.length_eq]

end Collected

end TestBench
