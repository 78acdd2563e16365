import TestBench.Run.Sequence

/-! A run seen as the list of its trials. What the executor answers is settled first, for every
test; the run is then a function of the trials. It stops at the first trial without a verdict that
can be recorded, and what the later trials hold has no influence on it. -/
namespace TestBench

namespace Executor

/-- Every call is answered with a reply that depends on the command alone. -/
def Answers {σ : Type} (exec : Executor σ) (reply : String → Reply) : Prop :=
  ∀ command w, ((exec command).run w).1 = .ok (reply command)

/-- Every call is answered with some reply. -/
def Replies {σ : Type} (exec : Executor σ) : Prop :=
  ∀ command w, ∃ r, ((exec command).run w).1 = .ok r

/-- The trials of tests that are run in order, none of them left out. -/
def trials {σ : Type} (exec : Executor σ) (settings : Settings) (extraArgs : List String) :
    List Test → σ → List Trial
  | [], _ => []
  | t :: ts, w =>
    let called := (exec (settings.tool.commandLine t extraArgs)).run w
    Trial.ofAnswer settings extraArgs t called.1 :: trials exec settings extraArgs ts called.2

end Executor

namespace Trial

/-- The outcome that a trial came to; there is none if the tool could not be started. -/
def outcome? (t : Trial) : Option Outcome :=
  match t.verdict with
  | .ok o => o
  | .error _ => none

def stop? (t : Trial) : Option Stop :=
  match t.verdict with
  | .ok _ => none
  | .error e => some e

/-- Whether the run goes on after the trial. -/
def isJudged (t : Trial) : Bool :=
  t.stop?.isNone

def done (t : Trial) : Test :=
  t.test.entered t.outcome?

/-- The test with its outcome, if it came to one of the kind asked for. -/
def recorded? (kind : Outcome → Bool) (t : Trial) : Option Test :=
  (t.outcome?.filter kind).map t.test.withResult

def under (settings : Settings) (extraArgs : List String) (reply : String → Reply) (t : Test) :
    Trial :=
  ofReply settings extraArgs t (reply (settings.tool.commandLine t extraArgs))

end Trial

/-- The statistics of trials, each list read off the trials by itself. -/
def Stats.ofTrials (ts : List Trial) : Stats where
  tally :=
    { pass := ts.countP (·.outcome? == some .pass)
      fail := ts.countP (·.outcome? == some .fail)
      xpass := ts.countP (·.outcome? == some .xpass)
      xfail := ts.countP (·.outcome? == some .xfail) }
  count := ts.countP (·.outcome?.isSome)
  results := ts.filterMap (Trial.recorded? fun _ => true)
  failures := ts.filterMap (Trial.recorded? Outcome.isFailure)
  successes := ts.filterMap (Trial.recorded? (!·.isFailure))
  errors := (ts.filter (·.outcome?.isNone)).map (·.test)
  recorded := (ts.filter (·.outcome?.isSome)).map (·.test.id)

/-- What is seen of trials that are recorded when `k` of `total` tests have been. -/
def RunEvent.ofTrials (total : Nat) : Nat → List Trial → List RunEvent
  | _, [] => []
  | k, t :: ts =>
    .trial t :: .notice ⟨t.done, t.outcome?, progress (k + 1) total⟩ :: ofTrials total (k + 1) ts

/-- What a run leaves whose trials are given, after those of `past`. -/
def RunResult.ofTrials (total : Nat) (past ts : List Trial) : RunResult :=
  let judged := ts.takeWhile Trial.isJudged
  let others := ts.dropWhile Trial.isJudged
  { stats := .ofTrials (past ++ judged)
    tests := judged.map Trial.done ++ others.map (·.test)
    events := RunEvent.ofTrials total past.length judged ++ others.head?.toList.map .trial
    stop := others.head?.bind Trial.stop? }

section Trials

variable (settings : Settings) (extraArgs : List String)

theorem test_ofReply (t : Test) (r : Reply) :
    (Trial.ofReply settings extraArgs t r).test = t := by
  cases r with
  | notLaunched message => rfl
  | exited code output =>
    simp only [Trial.ofReply]
    split <;> rfl

theorem test_ofAnswer (t : Test) (answer : Except Fault Reply) :
    (Trial.ofAnswer settings extraArgs t answer).test = t := by
  cases answer with
  | error f => rfl
  | ok r => exact test_ofReply settings extraArgs t r

theorem recorded?_of_outcome {t : Trial} {o : Outcome} (h : t.outcome? = some o)
    (kind : Outcome → Bool) :
    t.recorded? kind = if kind o then some (t.test.withResult o) else none := by
  simp only [Trial.recorded?, h, Option.filter]
  cases kind o <;> rfl

theorem Test.unrun_eq {t : Test} (unrun : t.result = none) : { t with result := none } = t := by
  rcases t with ⟨id, path, args, expected, comment, result⟩
  cases unrun
  rfl

theorem done_of_unrun {u : Trial} (unrun : u.test.result = none) :
    u.done = { u.test with result := u.outcome? } := by
  unfold Trial.done
  cases u.outcome? with
  | some o => rfl
  | none => exact (Test.unrun_eq unrun).symm

theorem map_test_trials {σ : Type} (exec : Executor σ) (ts : List Test) (w : σ) :
    (exec.trials settings extraArgs ts w).map (·.test) = ts := by
  induction ts generalizing w with
  | nil => rfl
  | cons t ts ih => simp only [Executor.trials, List.map_cons, test_ofAnswer, ih]

theorem trials_of_answers {σ : Type} {exec : Executor σ} {reply : String → Reply}
    (answers : exec.Answers reply) (ts : List Test) (w : σ) :
    exec.trials settings extraArgs ts w = ts.map (Trial.under settings extraArgs reply) := by
  induction ts generalizing w with
  | nil => rfl
  | cons t ts ih =>
    have called := answers (settings.tool.commandLine t extraArgs) w
    simp only [Executor.trials, List.map_cons, called, ih]
    rfl

end Trials

/-- A test with a proper expectation is left without an outcome by a code that is neither of those
for success and failure, and by nothing else. -/
theorem classify_error {codes : ExitCodes} {t : Test} {code : Int} {f : Failure}
    (declared : t.expected.isExpectation = true) (h : codes.classify t code = .error f) :
    code ≠ codes.success ∧ code ≠ codes.failure ∧ f = .unresolvedStatus t.id t.path code := by
  unfold ExitCodes.classify at h
  cases expected : t.expected with
  | fail => rw [expected] at declared; cases declared
  | xpass => rw [expected] at declared; cases declared
  | pass | xfail =>
    rw [expected] at h
    dsimp only at h
    split at h
    · cases h
    · rename_i success
      split at h
      · cases h
      · rename_i failure
        cases h
        exact ⟨success, failure, rfl⟩

theorem stop?_ofReply {settings : Settings} {extraArgs : List String} {t : Test} {r : Reply}
    {e : Stop} (declared : t.expected.isExpectation = true)
    (h : (Trial.ofReply settings extraArgs t r).stop? = some e) :
    ∃ code output, r = .exited code output ∧ code ≠ settings.exitCodes.success ∧
      code ≠ settings.exitCodes.failure ∧ e = .failure (.unresolvedStatus t.id t.path code) := by
  cases r with
  | notLaunched message => cases h
  | exited code output =>
    simp only [Trial.ofReply] at h
    cases classified : settings.exitCodes.classify t code with
    | ok o => rw [classified] at h; cases h
    | error f =>
      obtain ⟨success, failure, rfl⟩ := classify_error declared classified
      rw [classified] at h
      cases h
      exact ⟨code, output, rfl, success, failure, rfl⟩

theorem enter_ofTrials {past : List Trial} {t : Trial} {o : Option Outcome}
    (judged : t.verdict = .ok o) (fresh : t.test.id ∉ past.map (·.test.id)) :
    (Stats.ofTrials past).enter t.test o = .ok (.ofTrials (past ++ [t])) := by
  have outcome : t.outcome? = o := by simp only [Trial.outcome?, judged]
  have unrecorded : (Stats.ofTrials past).recorded.contains t.test.id = false := by
    rw [List.contains_eq_mem, decide_eq_false_iff_not]
    intro h
    obtain ⟨u, hu, he⟩ := List.mem_map.mp h
    exact fresh (List.mem_map.mpr ⟨u, (List.mem_filter.mp hu).1, he⟩)
  cases o with
  | none => simp [Stats.enter, Stats.addError, Stats.ofTrials, Trial.recorded?, outcome]
  | some o =>
    simp only [Stats.enter, Stats.record, unrecorded, Bool.false_eq_true, if_false]
    have recorded := recorded?_of_outcome outcome
    cases o <;>
      simp [Stats.ofTrials, recorded, Tally.add, outcome, Outcome.isFailure]

/-! A run in a state, opened at its first step. -/

theorem run_bind {σ α β : Type} (x : StateM σ α) (f : α → StateM σ β) (w : σ) :
    (x >>= f).run w = (f (x.run w).1).run (x.run w).2 := rfl

theorem run_pure {σ α : Type} (a : α) (w : σ) : (pure a : StateM σ α).run w = (a, w) := rfl

section Steps

variable {σ : Type} (settings : Settings) (extraArgs : List String) (exec : Executor σ)

theorem runFrom_stops {total k : Nat} {s : Stats} {t : Test} {ts : List Test} {w : σ}
    {answer : Except Fault Reply} {e : Stop}
    (called : ((exec (settings.tool.commandLine t extraArgs)).run w).1 = answer)
    (unjudged : (Trial.ofAnswer settings extraArgs t answer).verdict = .error e) :
    ((RunResult.runFrom settings extraArgs exec total k s (t :: ts)).run w).1 =
      ⟨s, t :: ts, [.trial (Trial.ofAnswer settings extraArgs t answer)], some e⟩ := by
  subst called
  simp only [RunResult.runFrom, run_bind, unjudged, run_pure]

theorem runFrom_goes_on {total k : Nat} {s s' : Stats} {t : Test} {ts : List Test} {w w' : σ}
    {answer : Except Fault Reply} {o : Option Outcome}
    (called : (exec (settings.tool.commandLine t extraArgs)).run w = (answer, w'))
    (judged : (Trial.ofAnswer settings extraArgs t answer).verdict = .ok o)
    (entered : s.enter t o = .ok s') :
    ((RunResult.runFrom settings extraArgs exec total k s (t :: ts)).run w).1 =
      let r := ((RunResult.runFrom settings extraArgs exec total (k + 1) s' ts).run w').1
      { r with
        tests := t.entered o :: r.tests
        events := .trial (Trial.ofAnswer settings extraArgs t answer) ::
          .notice ⟨t.entered o, o, progress (k + 1) total⟩ :: r.events } := by
  simp only [RunResult.runFrom, run_bind, called, judged, entered, run_pure]

theorem runFrom_eq_ofTrials (total : Nat) (ts : List Test) (past : List Trial) (w : σ)
    (distinct : (past.map (·.test.id) ++ ts.map Test.id).Nodup) :
    ((RunResult.runFrom settings extraArgs exec total past.length (.ofTrials past) ts).run w).1 =
      .ofTrials total past (exec.trials settings extraArgs ts w) := by
  induction ts generalizing past w with
  | nil =>
    simp only [RunResult.runFrom, run_pure]
    simp [RunResult.ofTrials, Executor.trials, RunEvent.ofTrials]
  | cons t ts ih =>
    obtain ⟨answer, w', called⟩ :
        ∃ answer w', (exec (settings.tool.commandLine t extraArgs)).run w = (answer, w') :=
      ⟨_, _, rfl⟩
    have test := test_ofAnswer settings extraArgs t answer
    have trials : exec.trials settings extraArgs (t :: ts) w =
        Trial.ofAnswer settings extraArgs t answer :: exec.trials settings extraArgs ts w' := by
      simp only [Executor.trials, called]
    cases verdict : (Trial.ofAnswer settings extraArgs t answer).verdict with
    | error e =>
      rw [runFrom_stops settings extraArgs exec (congrArg Prod.fst called) verdict, trials]
      have stops : (Trial.ofAnswer settings extraArgs t answer).isJudged = false := by
        simp only [Trial.isJudged, Trial.stop?, verdict, Option.isNone_some]
      simp [RunResult.ofTrials, RunEvent.ofTrials, stops, Trial.stop?, verdict, test,
        map_test_trials]
    | ok o =>
      have goesOn : (Trial.ofAnswer settings extraArgs t answer).isJudged = true := by
        simp only [Trial.isJudged, Trial.stop?, verdict, Option.isNone_none]
      have outcome : (Trial.ofAnswer settings extraArgs t answer).outcome? = o := by
        simp only [Trial.outcome?, verdict]
      have fresh : t.id ∉ past.map (·.test.id) := by
        intro h
        exact (List.nodup_append.mp distinct).2.2 _ h _ (by simp) rfl
      have entered := enter_ofTrials verdict (by rwa [test])
      rw [test] at entered
      rw [runFrom_goes_on settings extraArgs exec called verdict entered, trials]
      have rest := ih (past ++ [Trial.ofAnswer settings extraArgs t answer]) w'
        (by simpa [test] using distinct)
      rw [List.length_append, List.length_singleton] at rest
      rw [rest]
      simp [RunResult.ofTrials, RunEvent.ofTrials, goesOn, Trial.done, outcome, test]

end Steps

end TestBench
