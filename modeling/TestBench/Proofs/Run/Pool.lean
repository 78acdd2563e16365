import Mathlib.Data.List.Perm.Basic
import TestBench.Proofs.Run.Collection
import TestBench.Run.Pool

/-! Runs with several workers, for every order of moves. A move shifts one test from one of the
lists of a pool to the next, so the tests of the run are never lost or doubled; and as long as
nothing has stopped the run, what is recorded is what a run would leave that took the tests in the
order in which they were collected. -/
namespace TestBench.Pool

variable {σ : Type} (settings : Settings) (extraArgs : List String) (reply : String → Reply)

/-- Where the tests of a run are: those collected so far, and those given up. -/
structure Tracks (tests : List Test) (p : Pool σ) (collected lost : List Test) : Prop where
  trials : ∀ u ∈ p.running ++ p.ended, u = Trial.under settings extraArgs reply u.test
  shares : (p.waiting ++ p.running.map Trial.test ++ p.ended.map Trial.test ++ collected ++
    lost).Perm tests
  written : p.result.trials.Perm
    (p.ended ++ collected.map (Trial.under settings extraArgs reply))
  goes_on : p.result.stop = none → lost = [] ∧
    (∀ t ∈ collected, (Trial.under settings extraArgs reply t).stop? = none) ∧
    p.result.stats = .ofTrials (collected.map (Trial.under settings extraArgs reply)) ∧
    p.result.tests = (collected.map (Trial.under settings extraArgs reply)).map Trial.done ∧
    p.result.notices =
      Notice.ofTrials tests.length 0 (collected.map (Trial.under settings extraArgs reply))
  stopped : ∀ e, p.result.stop = some e →
    ∃ t ∈ collected, (Trial.under settings extraArgs reply t).stop? = some e

theorem tracks_start (tests : List Test) (w : σ) :
    Tracks settings extraArgs reply tests { waiting := tests, world := w } [] [] where
  trials := by simp
  shares := by simp
  written := by simp [RunResult.trials]
  goes_on _ := ⟨rfl, by simp, rfl, rfl, rfl⟩
  stopped e h := by cases h

variable {settings extraArgs reply}

theorem eraseIdx_perm {α : Type} {xs : List α} {i : Nat} {a : α} (h : xs[i]? = some a) :
    xs.Perm (a :: xs.eraseIdx i) := by
  obtain ⟨hi, rfl⟩ := List.getElem?_eq_some_iff.mp h
  exact (List.getElem_cons_eraseIdx_perm hi).symm

theorem trials_write (r : RunResult) (u : Trial) : (r.write u).trials = r.trials ++ [u] := by
  simp [RunResult.write, RunResult.trials]

theorem trials_collect (r : RunResult) (total : Nat) (u : Trial) :
    (r.collect total u).trials = r.trials := by
  simp only [RunResult.collect]
  split
  · rfl
  · split
    · rfl
    · simp [RunResult.trials]

theorem collect_of_judged {r : RunResult} {past : List Trial} {u : Trial} (total : Nat)
    (stats : r.stats = .ofTrials past) (judged : u.stop? = none)
    (fresh : u.test.id ∉ past.map (·.test.id)) :
    r.collect total u =
      { r with
        stats := .ofTrials (past ++ [u])
        tests := r.tests ++ [u.done]
        events := r.events ++
          [.notice ⟨u.done, u.outcome?, progress (r.tests.length + 1) total⟩] } := by
  cases verdict : u.verdict with
  | error e => simp only [Trial.stop?, verdict] at judged; cases judged
  | ok o =>
    have outcome : u.outcome? = o := by simp only [Trial.outcome?, verdict]
    simp only [RunResult.collect, verdict, stats, enter_ofTrials verdict fresh, Trial.done, outcome]

theorem collect_of_unjudged {r : RunResult} {u : Trial} {e : Stop} (total : Nat)
    (unjudged : u.stop? = some e) : r.collect total u = { r with stop := some e } := by
  cases verdict : u.verdict with
  | error e =>
    simp only [Trial.stop?, verdict] at unjudged
    simp only [RunResult.collect, verdict, unjudged]
  | ok o => simp only [Trial.stop?, verdict] at unjudged; cases unjudged

theorem notices_append (total : Nat) (past : List Trial) (u : Trial) :
    Notice.ofTrials total 0 (past ++ [u]) =
      Notice.ofTrials total 0 past ++
        [⟨u.done, u.outcome?, progress (past.length + 1) total⟩] := by
  simp [Notice.ofTrials, List.mapIdx_append]

/-- All that a move can do. -/
theorem move_cases {exec : Executor σ} {workers total : Nat} {p q : Pool σ} {m : Move}
    (moved : p.move settings extraArgs exec workers total m = some q) :
    (∃ t rest, p.waiting = t :: rest ∧ p.running.length < workers ∧
      let called := (exec (settings.tool.commandLine t extraArgs)).run p.world
      q = { p with
        waiting := rest
        running := p.running ++ [Trial.ofAnswer settings extraArgs t called.1]
        world := called.2 }) ∨
    (∃ (place : Nat) (u : Trial), p.running[place]? = some u ∧
      q = { p with
        running := p.running.eraseIdx place
        ended := p.ended ++ [u]
        result := p.result.write u }) ∨
    (∃ (place : Nat) (u : Trial), p.result.stop = none ∧ p.ended[place]? = some u ∧
      q = { p with ended := p.ended.eraseIdx place, result := p.result.collect total u }) ∨
    (∃ (place : Nat) (t : Test) (e : Stop), p.result.stop = some e ∧ p.waiting[place]? = some t ∧
      q = { p with waiting := p.waiting.eraseIdx place }) := by
  cases m with
  | start =>
    simp only [move] at moved
    split at moved
    · cases moved
    · rename_i t rest waiting
      split at moved
      · rename_i free
        exact .inl ⟨t, rest, waiting, free, (Option.some.inj moved).symm⟩
      · cases moved
  | finish place =>
    simp only [move] at moved
    split at moved
    · cases moved
    · rename_i u found
      exact .inr (.inl ⟨place, u, found, (Option.some.inj moved).symm⟩)
  | collect place =>
    simp only [move] at moved
    split at moved
    · rename_i u goesOn found
      exact .inr (.inr (.inl ⟨place, u, goesOn, found, (Option.some.inj moved).symm⟩))
    · cases moved
  | abandon place =>
    simp only [move] at moved
    split at moved
    · rename_i e t stop found
      exact .inr (.inr (.inr ⟨place, t, e, stop, found, (Option.some.inj moved).symm⟩))
    · cases moved

section Moves

variable {exec : Executor σ} {tests : List Test} {p : Pool σ} {collected lost : List Test}
  (tracks : Tracks settings extraArgs reply tests p collected lost)
include tracks

theorem tracks_start_move (answers : exec.Answers reply) {t : Test} {rest : List Test}
    (waiting : p.waiting = t :: rest) :
    let called := (exec (settings.tool.commandLine t extraArgs)).run p.world
    Tracks settings extraArgs reply tests
      { p with
        waiting := rest
        running := p.running ++ [Trial.ofAnswer settings extraArgs t called.1]
        world := called.2 } collected lost := by
  have called := answers (settings.tool.commandLine t extraArgs) p.world
  refine ⟨?_, ?_, tracks.written, tracks.goes_on, tracks.stopped⟩
  · intro u hu
    rw [called] at hu
    simp only [List.mem_append, List.mem_singleton] at hu
    rcases hu with (hu | rfl) | hu
    · exact tracks.trials u (List.mem_append_left _ hu)
    · rw [test_ofAnswer]
      rfl
    · exact tracks.trials u (List.mem_append_right _ hu)
  · refine List.perm_iff_count.mpr fun x => ?_
    have before := tracks.shares.count_eq x
    simp only [waiting, List.map_append, List.map_cons, List.map_nil, test_ofAnswer,
      List.count_append, List.count_cons, List.count_nil] at before ⊢
    omega

theorem tracks_finish {place : Nat} {u : Trial} (found : p.running[place]? = some u) :
    Tracks settings extraArgs reply tests
      { p with
        running := p.running.eraseIdx place
        ended := p.ended ++ [u]
        result := p.result.write u } collected lost := by
  have taken := eraseIdx_perm found
  refine ⟨?_, ?_, ?_, ?_, tracks.stopped⟩
  · intro v hv
    apply tracks.trials v
    simp only [List.mem_append, taken.mem_iff, List.mem_cons, List.not_mem_nil] at hv ⊢
    tauto
  · refine List.perm_iff_count.mpr fun x => ?_
    have before := tracks.shares.count_eq x
    have moved := (taken.map Trial.test).count_eq x
    simp only [List.map_append, List.map_cons, List.map_nil, List.count_append,
      List.count_cons, List.count_nil] at before moved ⊢
    omega
  · rw [trials_write]
    refine (tracks.written.append_right [u]).trans ?_
    rw [List.append_assoc, List.append_assoc]
    exact List.perm_append_comm.append_left p.ended
  · intro goesOn
    obtain ⟨lost, judged, stats, done, notices⟩ := tracks.goes_on goesOn
    refine ⟨lost, judged, stats, done, ?_⟩
    rw [← notices]
    simp [RunResult.notices, RunResult.write]

theorem tracks_collect (distinct : (tests.map Test.id).Nodup) {place : Nat} {u : Trial}
    (goesOn : p.result.stop = none) (found : p.ended[place]? = some u) :
    Tracks settings extraArgs reply tests
      { p with ended := p.ended.eraseIdx place, result := p.result.collect tests.length u }
      (collected ++ [u.test]) [] := by
  have taken := eraseIdx_perm found
  have own := tracks.trials u (List.mem_append_right _ (List.mem_of_getElem? found))
  obtain ⟨lost, before, stats, done, notices⟩ := tracks.goes_on goesOn
  have shares : (p.waiting ++ p.running.map Trial.test ++ (p.ended.eraseIdx place).map Trial.test ++
      (collected ++ [u.test]) ++ []).Perm tests := by
    refine List.perm_iff_count.mpr fun x => ?_
    have before := tracks.shares.count_eq x
    have moved := (taken.map Trial.test).count_eq x
    simp only [lost, List.map_cons, List.count_append, List.count_cons, List.count_nil]
      at before moved ⊢
    omega
  have fresh : u.test.id ∉
      (collected.map (Trial.under settings extraArgs reply)).map (·.test.id) := by
    rw [map_id_under]
    intro h
    have ids := (shares.map Test.id).nodup_iff.mpr distinct
    simp only [List.append_nil, List.map_append, ← List.append_assoc, List.map_singleton] at ids
    exact (List.nodup_append.mp ids).2.2 _ (List.mem_append_right _ h) _ (by simp) rfl
  refine ⟨?_, shares, ?_, ?_, ?_⟩
  · intro v hv
    apply tracks.trials v
    simp only [List.mem_append, taken.mem_iff, List.mem_cons] at hv ⊢
    tauto
  · rw [trials_collect, List.map_append, List.map_singleton, ← own, ← List.append_assoc]
    exact tracks.written.trans ((taken.append_right _).trans (List.perm_append_singleton _ _).symm)
  · cases judged : u.stop? with
    | some e =>
      rw [collect_of_unjudged _ judged]
      intro h
      cases h
    | none =>
      rw [collect_of_judged _ stats judged fresh]
      intro _
      refine ⟨rfl, ?_, ?_, ?_, ?_⟩
      · intro t ht
        rcases List.mem_append.mp ht with ht | ht
        · exact before t ht
        · rw [List.mem_singleton.mp ht, ← own, judged]
      · rw [List.map_append, List.map_singleton, ← own]
      · simp only [done, List.map_append, List.map_singleton, ← own]
      · rw [List.map_append, List.map_singleton, ← own, notices_append, ← notices]
        simp [RunResult.notices, done]
  · intro e
    cases judged : u.stop? with
    | some f =>
      rw [collect_of_unjudged _ judged]
      intro h
      cases h
      exact ⟨u.test, by simp, by rw [← own, judged]⟩
    | none =>
      rw [collect_of_judged _ stats judged fresh]
      intro h
      rw [goesOn] at h
      cases h

theorem tracks_abandon {place : Nat} {t : Test} {e : Stop} (stop : p.result.stop = some e)
    (found : p.waiting[place]? = some t) :
    Tracks settings extraArgs reply tests { p with waiting := p.waiting.eraseIdx place }
      collected (t :: lost) := by
  refine ⟨tracks.trials, ?_, tracks.written, ?_, tracks.stopped⟩
  · refine List.perm_iff_count.mpr fun x => ?_
    have before := tracks.shares.count_eq x
    have moved := (eraseIdx_perm found).count_eq x
    simp only [List.count_append, List.count_cons] at before moved ⊢
    omega
  · intro goesOn
    rw [stop] at goesOn
    cases goesOn

/-- A move keeps track of the tests. -/
theorem tracks_move (answers : exec.Answers reply) (distinct : (tests.map Test.id).Nodup)
    {workers : Nat} {m : Move} {q : Pool σ}
    (moved : p.move settings extraArgs exec workers tests.length m = some q) :
    ∃ collected lost, Tracks settings extraArgs reply tests q collected lost := by
  rcases move_cases moved with ⟨t, rest, waiting, -, rfl⟩ | ⟨place, u, found, rfl⟩ |
    ⟨place, u, goesOn, found, rfl⟩ | ⟨place, t, e, stop, found, rfl⟩
  · exact ⟨_, _, tracks_start_move tracks answers waiting⟩
  · exact ⟨_, _, tracks_finish tracks found⟩
  · exact ⟨_, _, tracks_collect tracks distinct goesOn found⟩
  · exact ⟨_, _, tracks_abandon tracks stop found⟩

theorem tracks_run (answers : exec.Answers reply) (distinct : (tests.map Test.id).Nodup)
    {workers : Nat} {moves : List Move} {q : Pool σ}
    (ran : run settings extraArgs exec workers tests.length moves p = some q) :
    ∃ collected lost, Tracks settings extraArgs reply tests q collected lost := by
  induction moves generalizing p collected lost with
  | nil =>
    cases ran
    exact ⟨_, _, tracks⟩
  | cons m moves ih =>
    simp only [run] at ran
    split at ran
    · cases ran
    · rename_i next moved
      obtain ⟨_, _, tracks⟩ := tracks_move tracks answers distinct moved
      exact ih tracks ran

end Moves

theorem collected_of_done {tests : List Test} {p : Pool σ} {collected lost : List Test}
    (tracks : Tracks settings extraArgs reply tests p collected lost) (done : p.isDone = true)
    (goesOn : p.result.stop = none) :
    collected.Perm tests ∧ p.result.Collected settings extraArgs reply collected := by
  simp only [isDone, goesOn, Option.isSome_none, Bool.or_false, Bool.and_eq_true,
    List.isEmpty_iff] at done
  obtain ⟨⟨waiting, running⟩, ended⟩ := done
  obtain ⟨lost, judged, stats, left, notices⟩ := tracks.goes_on goesOn
  have same : collected.Perm tests := by simpa [waiting, running, ended, lost] using tracks.shares
  have written := tracks.written
  rw [ended, List.nil_append] at written
  exact ⟨same, goesOn, judged, stats, left, written, by rw [notices, same.length_eq]⟩

/-! A run always comes to its end: no more moves are possible than there is work left, and while
there is some, a move is possible. -/

/-- The work left: a test that waits is taken, written and collected. -/
def work (p : Pool σ) : Nat :=
  3 * p.waiting.length + 2 * p.running.length + p.ended.length

theorem work_move {exec : Executor σ} {workers total : Nat} {p q : Pool σ} {m : Move}
    (moved : p.move settings extraArgs exec workers total m = some q) : q.work < p.work := by
  have shorter {α : Type} {xs : List α} {i : Nat} {a : α} (h : xs[i]? = some a) :
      xs.length = (xs.eraseIdx i).length + 1 := (eraseIdx_perm h).length_eq
  rcases move_cases moved with ⟨t, rest, waiting, -, rfl⟩ | ⟨place, u, found, rfl⟩ |
    ⟨place, u, -, found, rfl⟩ | ⟨place, t, e, -, found, rfl⟩
  · simp only [work, waiting, List.length_append, List.length_cons, List.length_nil]
    omega
  · have := shorter found
    simp only [work, List.length_append, List.length_cons, List.length_nil]
    omega
  · have := shorter found
    simp only [work]
    omega
  · have := shorter found
    simp only [work]
    omega

theorem length_of_run {exec : Executor σ} {workers total : Nat} {moves : List Move}
    {p q : Pool σ} (ran : run settings extraArgs exec workers total moves p = some q) :
    q.work + moves.length ≤ p.work := by
  induction moves generalizing p with
  | nil =>
    cases ran
    exact Nat.le_refl _
  | cons m moves ih =>
    simp only [run] at ran
    split at ran
    · cases ran
    · rename_i next moved
      have rest := ih ran
      have less := work_move moved
      rw [List.length_cons]
      omega

variable (settings extraArgs) in
theorem exists_move (exec : Executor σ) {workers : Nat} (total : Nat) (some_workers : 0 < workers)
    {p : Pool σ} (more : p.isDone = false) :
    ∃ m q, p.move settings extraArgs exec workers total m = some q := by
  cases running : p.running with
  | cons u rest => exact ⟨.finish 0, _, by simp only [move, running]; rfl⟩
  | nil =>
    cases waiting : p.waiting with
    | cons t rest =>
      refine ⟨.start, ?_⟩
      simp only [move, waiting, running, List.length_nil, some_workers, if_true]
      exact ⟨_, rfl⟩
    | nil =>
      simp only [isDone, running, waiting, List.isEmpty_nil, Bool.and_self, Bool.true_and,
        Bool.or_eq_false_iff, Option.isSome_eq_false_iff, Option.isNone_iff_eq_none] at more
      cases ended : p.ended with
      | nil => simp [ended] at more
      | cons u rest => exact ⟨.collect 0, _, by simp only [move, more.2, ended]; rfl⟩

variable (settings extraArgs) in
/-- Every run can be brought to its end, whatever has happened so far. -/
theorem exists_done (exec : Executor σ) {workers : Nat} (total : Nat) (some_workers : 0 < workers)
    (p : Pool σ) :
    ∃ moves q, run settings extraArgs exec workers total moves p = some q ∧ q.isDone = true := by
  induction h : p.work using Nat.strongRecOn generalizing p with
  | ind n ih =>
    cases more : p.isDone with
    | true => exact ⟨[], p, rfl, more⟩
    | false =>
      obtain ⟨m, next, moved⟩ := exists_move settings extraArgs exec
        total some_workers more
      obtain ⟨moves, q, ran, done⟩ := ih next.work (h ▸ work_move moved) next rfl
      refine ⟨m :: moves, q, ?_, done⟩
      simp only [run, moved]
      exact ran

end TestBench.Pool
