import TestBench.Proofs.FileTree.Names
import TestBench.Proofs.Report.Elapsed
import TestBench.Proofs.Run.Parallel
import TestBench.Proofs.Session.Selection
import TestBench.Proofs.Session.Transcript
import TestBench.Proofs.Suite.Load

/-! The exit code of a session against the replies of the tool. What the tool replies to each test
that is selected settles the code, whatever the number of workers and the order in which tests
complete. -/
namespace TestBench

section Replies

variable (settings : Settings) (extraArgs : List String) (reply : String → Reply)

/-- The tool leaves with a code that is neither that of success nor that of failure. -/
def Test.Unresolved (t : Test) : Prop :=
  ∃ code output, reply (settings.tool.commandLine t extraArgs) = .exited code output ∧
    code ≠ settings.exitCodes.success ∧ code ≠ settings.exitCodes.failure

/-- The tool cannot be started, or it fails on a test that is expected to pass. -/
def Test.Broken (t : Test) : Prop :=
  (∃ message, reply (settings.tool.commandLine t extraArgs) = .notLaunched message) ∨
    t.expected = .pass ∧ ∃ output,
      reply (settings.tool.commandLine t extraArgs) = .exited settings.exitCodes.failure output

/-- The account of a run tells what the tool replied: it ends with 2 and one message if a test is
unresolved, and otherwise with 1 if a test is broken and with 0 if none is. -/
structure Account.Tells (ts : List Test) (a : Account) : Prop where
  fatal : a.ending = .exit 2 ↔ ∃ t ∈ ts, t.Unresolved settings extraArgs reply
  failed : a.ending = .exit 1 ↔
    (∀ t ∈ ts, ¬ t.Unresolved settings extraArgs reply) ∧
      ∃ t ∈ ts, t.Broken settings extraArgs reply
  passed : a.ending = .exit 0 ↔
    (∀ t ∈ ts, ¬ t.Unresolved settings extraArgs reply) ∧
      ∀ t ∈ ts, ¬ t.Broken settings extraArgs reply
  message : a.ending = .exit 2 → ∃ t ∈ ts, ∃ code output,
    reply (settings.tool.commandLine t extraArgs) = .exited code output ∧
    code ≠ settings.exitCodes.success ∧ code ≠ settings.exitCodes.failure ∧
    a.report = [labelled "ERROR" (Failure.unresolvedStatus t.id t.path code).message]

variable {settings extraArgs reply}

theorem unresolved_of_stop? {t : Test} {e : Stop} (declared : t.expected.isExpectation = true)
    (h : (Trial.under settings extraArgs reply t).stop? = some e) :
    ∃ code output, reply (settings.tool.commandLine t extraArgs) = .exited code output ∧
      code ≠ settings.exitCodes.success ∧ code ≠ settings.exitCodes.failure ∧
      e = .failure (.unresolvedStatus t.id t.path code) :=
  stop?_ofReply declared h

theorem stop?_eq_none_iff {t : Test} (declared : t.expected.isExpectation = true) :
    (Trial.under settings extraArgs reply t).stop? = none ↔
      ¬ t.Unresolved settings extraArgs reply := by
  constructor
  · rintro judged ⟨code, output, replied, success, failure⟩
    have classified : settings.exitCodes.classify t code =
        .error (.unresolvedStatus t.id t.path code) := by
      cases expected : t.expected with
      | pass | xfail => simp [ExitCodes.classify, expected, success, failure]
      | fail | xpass => rw [expected] at declared; cases declared
    simp only [Trial.under, replied, Trial.ofReply, classified, Trial.stop?] at judged
    cases judged
  · intro resolved
    cases stop : (Trial.under settings extraArgs reply t).stop? with
    | none => rfl
    | some e =>
      obtain ⟨code, output, replied, success, failure, -⟩ := unresolved_of_stop? declared stop
      exact absurd ⟨code, output, replied, success, failure⟩ resolved

/-- Where the codes of success and failure differ, a test that was judged is broken exactly if it
came to no outcome or failed against its expectation. -/
theorem broken_iff_outcome? {t : Test} (declared : t.expected.isExpectation = true)
    (codes : settings.exitCodes.success ≠ settings.exitCodes.failure)
    (judged : (Trial.under settings extraArgs reply t).stop? = none) :
    t.Broken settings extraArgs reply ↔
      (Trial.under settings extraArgs reply t).outcome? = none ∨
        (Trial.under settings extraArgs reply t).outcome? = some .fail := by
  have resolved := (stop?_eq_none_iff declared).mp judged
  cases replied : reply (settings.tool.commandLine t extraArgs) with
  | notLaunched message => simp [Test.Broken, Trial.under, replied, Trial.ofReply, Trial.outcome?]
  | exited code output =>
    have known : code = settings.exitCodes.success ∨ code = settings.exitCodes.failure := by
      by_contra neither
      rw [not_or] at neither
      exact resolved ⟨code, output, replied, neither⟩
    cases expected : t.expected with
    | fail | xpass => rw [expected] at declared; cases declared
    | pass | xfail =>
      rcases known with rfl | rfl
      · simp [Test.Broken, Trial.under, replied, Trial.ofReply, Trial.outcome?, ExitCodes.classify,
          expected, codes]
      · simp [Test.Broken, Trial.under, replied, Trial.ofReply, Trial.outcome?, ExitCodes.classify,
          expected, codes.symm]

end Replies

/-! The exit code of statistics. -/

theorem exitCode_zero_or_one (s : Stats) : s.exitCode = 0 ∨ s.exitCode = 1 := by
  unfold Stats.exitCode
  split
  · exact .inl rfl
  · exact .inr rfl

theorem exitCode_sortById (s : Stats) : s.sortById.exitCode = s.exitCode := by
  have errors : (Test.sortById s.errors).isEmpty = s.errors.isEmpty :=
    (List.mergeSort_perm s.errors _).isEmpty_eq
  unfold Stats.exitCode
  simp only [Stats.counter, Stats.sortById, errors]
  rfl

/-- Statistics of trials give zero exactly if each trial came to an outcome that is no failure of a
test that should pass. -/
theorem exitCode_ofTrials_eq_zero_iff (ts : List Trial) :
    (Stats.ofTrials ts).exitCode = 0 ↔
      ∀ t ∈ ts, ¬(t.outcome? = none ∨ t.outcome? = some .fail) := by
  have failures : (Stats.ofTrials ts).counter .fail = 0 ↔ ∀ t ∈ ts, t.outcome? ≠ some .fail := by
    simp [Stats.counter, Tally.get, Stats.ofTrials, List.countP_eq_zero]
  have errors : (Stats.ofTrials ts).errors.isEmpty = true ↔ ∀ t ∈ ts, t.outcome? ≠ none := by
    simp [Stats.ofTrials, List.filter_eq_nil_iff]
  unfold Stats.exitCode
  simp only [failures, errors]
  split
  · rename_i both
    exact iff_of_true rfl fun t ht => not_or.mpr ⟨both.2 t ht, both.1 t ht⟩
  · rename_i missed
    refine iff_of_false (by decide) fun all => missed ⟨?_, ?_⟩
    · exact fun t ht => (not_or.mp (all t ht)).2
    · exact fun t ht => (not_or.mp (all t ht)).1

section Runs

variable {settings : Settings} {extraArgs : List String} {reply : String → Reply}

variable (settings extraArgs reply) in
/-- A run stops at one of some tests, or judges all of them and has zero as its exit code exactly if
none is broken. -/
structure RunResult.Judges (ts : List Test) (r : RunResult) : Prop where
  stopped : ∀ e, r.stop = some e →
    ∃ t ∈ ts, (Trial.under settings extraArgs reply t).stop? = some e
  judged : r.stop = none → ∀ t ∈ ts, (Trial.under settings extraArgs reply t).stop? = none
  passes : r.stop = none →
    (r.stats.exitCode = 0 ↔ ∀ t ∈ ts, ¬ t.Broken settings extraArgs reply)

theorem RunResult.Judges.sorted {ts : List Test} {r : RunResult}
    (judges : r.Judges settings extraArgs reply ts) :
    RunResult.Judges settings extraArgs reply ts { r with stats := r.stats.sortById } where
  stopped := judges.stopped
  judged := judges.judged
  passes goesOn := by
    rw [exitCode_sortById]
    exact judges.passes goesOn

/-- Where no test is unresolved, a code of zero or one that tells broken tests from unbroken ones is
all that there is to tell. -/
theorem tells_of_exit {ts : List Test} {a : Account} {code : Int}
    (resolved : ∀ t ∈ ts, ¬ t.Unresolved settings extraArgs reply) (ending : a.ending = .exit code)
    (binary : code = 0 ∨ code = 1)
    (passes : code = 0 ↔ ∀ t ∈ ts, ¬ t.Broken settings extraArgs reply) :
    a.Tells settings extraArgs reply ts := by
  have none_unresolved : ¬ ∃ t ∈ ts, t.Unresolved settings extraArgs reply := by
    rintro ⟨t, ht, unresolved⟩
    exact resolved t ht unresolved
  rcases binary with rfl | rfl
  · have unbroken := passes.mp rfl
    constructor
    · exact iff_of_false (by simp [ending]) none_unresolved
    · refine iff_of_false (by simp [ending]) ?_
      rintro ⟨-, t, ht, broken⟩
      exact unbroken t ht broken
    · exact iff_of_true ending ⟨resolved, unbroken⟩
    · simp [ending]
  · have broken : ¬ ∀ t ∈ ts, ¬ t.Broken settings extraArgs reply := mt passes.mpr one_ne_zero
    constructor
    · exact iff_of_false (by simp [ending]) none_unresolved
    · exact iff_of_true ending ⟨resolved, by simpa using broken⟩
    · exact iff_of_false (by simp [ending]) fun both => broken both.2
    · simp [ending]

theorem ending_ofRun {clock : Clock} {p : ℚ}
    (finite : (clock.after.sub clock.before).toRat? = some p) (log : List String) {r : RunResult}
    (ended : r.stop = none) : (Account.ofRun clock log r).ending = .exit r.stats.exitCode := by
  obtain ⟨line, written⟩ := elapsedLine_ok finite
  simp only [Account.ofRun, ended, written, Report.summary]
  rfl

variable {ts : List Test} (declared : ∀ t ∈ ts, t.expected.isExpectation = true)
  (codes : settings.exitCodes.success ≠ settings.exitCodes.failure)
include declared codes

theorem judges_of_collected {r : RunResult}
    (stops : ∀ e, r.stop = some e →
      ∃ t ∈ ts, (Trial.under settings extraArgs reply t).stop? = some e)
    (collects : r.stop = none →
      ∃ completed, completed.Perm ts ∧ r.Collected settings extraArgs reply completed) :
    r.Judges settings extraArgs reply ts := by
  refine ⟨stops, ?_, ?_⟩
  · intro goesOn t ht
    obtain ⟨completed, same, collected⟩ := collects goesOn
    exact collected.judged t (same.mem_iff.mpr ht)
  · intro goesOn
    obtain ⟨completed, same, collected⟩ := collects goesOn
    rw [collected.stats, exitCode_ofTrials_eq_zero_iff, List.forall_mem_map]
    refine forall_congr' fun t => ?_
    rw [same.mem_iff]
    refine imp_congr_right fun ht => not_congr ?_
    exact (broken_iff_outcome? (declared t ht) codes
      (collected.judged t (same.mem_iff.mpr ht))).symm

theorem judges_of_run {σ : Type} {exec : Executor σ} (answers : exec.Answers reply)
    (distinct : (ts.map Test.id).Nodup) {complete : List Test → List Test}
    (permutes : ∀ ts, (complete ts).Perm ts) (workers : Option Int) (w : σ) :
    ((RunResult.run settings extraArgs exec complete workers ts).run w).1.Judges
      settings extraArgs reply ts := by
  -- one after the other or in the order of completion: both are runs in some order of the tests
  have inOrder (us : List Test) (same : us.Perm ts) :
      ((RunResult.runFrom settings extraArgs exec us.length 0 {} us).run w).1.Judges
        settings extraArgs reply ts := by
    have ids := (same.map Test.id).nodup_iff.mpr distinct
    have ends := runFrom_stops_or_collects settings extraArgs answers us ids w
    refine judges_of_collected declared codes ?_ fun goesOn => ⟨us, same, ends.2 goesOn⟩
    intro e stop
    obtain ⟨t, ht, at_t⟩ := ends.1 e stop
    exact ⟨t, same.mem_iff.mp ht, at_t⟩
  unfold RunResult.run
  split
  · exact (inOrder (complete ts) (permutes ts)).sorted
  · exact inOrder ts (.refl _)

theorem judges_of_pool {σ : Type} {exec : Executor σ} (answers : exec.Answers reply)
    (distinct : (ts.map Test.id).Nodup) {workers : Nat} {moves : List Pool.Move} {p : Pool σ}
    {w : σ}
    (ran : Pool.run settings extraArgs exec workers ts.length moves { waiting := ts, world := w } =
      some p) (done : p.isDone = true) :
    p.outcome.Judges settings extraArgs reply ts := by
  obtain ⟨collected, lost, tracks⟩ := Pool.tracks_run
    (Pool.tracks_start settings extraArgs reply ts w) answers distinct ran
  have judges : p.result.Judges settings extraArgs reply ts := by
    refine judges_of_collected declared codes ?_ fun goesOn =>
      ⟨collected, Pool.collected_of_done tracks done goesOn⟩
    intro e stop
    obtain ⟨t, ht, at_t⟩ := tracks.stopped e stop
    exact ⟨t, tracks.shares.mem_iff.mp (by simp [ht]), at_t⟩
  exact judges.sorted

omit codes in
theorem tells_ofRun {clock : Clock} {p : ℚ}
    (finite : (clock.after.sub clock.before).toRat? = some p) (log : List String) {r : RunResult}
    (judges : r.Judges settings extraArgs reply ts) :
    (Account.ofRun clock log r).Tells settings extraArgs reply ts := by
  cases stop : r.stop with
  | some e =>
    obtain ⟨t, ht, at_t⟩ := judges.stopped e stop
    obtain ⟨code, output, replied, success, failure, rfl⟩ :=
      unresolved_of_stop? (declared t ht) at_t
    have unresolved : ∃ t ∈ ts, t.Unresolved settings extraArgs reply :=
      ⟨t, ht, code, output, replied, success, failure⟩
    have resolved : ¬ ∀ t ∈ ts, ¬ t.Unresolved settings extraArgs reply :=
      fun all => all t ht ⟨code, output, replied, success, failure⟩
    simp only [Account.ofRun, stop, Account.stopped, Account.failed]
    constructor
    · exact iff_of_true rfl unresolved
    · simp [resolved]
    · simp [resolved]
    · exact fun _ => ⟨t, ht, code, output, replied, success, failure, rfl⟩
  | none =>
    have resolved : ∀ t ∈ ts, ¬ t.Unresolved settings extraArgs reply := fun t ht =>
      (stop?_eq_none_iff (declared t ht)).mp (judges.judged stop t ht)
    exact tells_of_exit resolved (ending_ofRun finite log stop) (exitCode_zero_or_one r.stats)
      (judges.passes stop)

end Runs

end TestBench
