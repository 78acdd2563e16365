import Mathlib.Data.List.DropRight
import TestBench.Proofs.Run.Collection

/-! A run of tests one after the other, against the replies that its calls get in turn. The replies
say how far the run goes, and what is then seen of it from every side: by what answers the calls, in
the log, in the notices, in the statistics and in the tests. -/
namespace TestBench

/-- Gives the replies in turn. The state is the commands it was called with. -/
def Executor.inTurn (replies : Nat → Reply) : Executor (List String) := fun command => do
  let past ← get
  set (past ++ [command])
  return .ok (replies past.length)

/-- The table of outcomes by expectation and exit code. If both codes are the same, only the rows of
success apply. -/
inductive ExitCodes.Row (codes : ExitCodes) : Outcome → Int → Outcome → Prop where
  | pass : codes.Row .pass codes.success .pass
  | xpass : codes.Row .xfail codes.success .xpass
  | fail (apart : codes.failure ≠ codes.success) : codes.Row .pass codes.failure .fail
  | xfail (apart : codes.failure ≠ codes.success) : codes.Row .xfail codes.failure .xfail

/-- The reply is an exit code, and the table has no row for the test with it. -/
def Test.Fatal (codes : ExitCodes) (t : Test) (reply : Reply) : Prop :=
  ∃ code output, reply = .exited code output ∧
    (t.expected.isExpectation = false ∨ code ≠ codes.success ∧ code ≠ codes.failure)

/-- The trial of a test about which the log says some lines after the command. -/
def Test.trial (settings : Settings) (extraArgs : List String) (t : Test) (said : List String)
    (verdict : Except Stop (Option Outcome)) : Trial where
  test := t
  command := settings.tool.commandLine t extraArgs
  block := ["**** Running Test " ++ toString t.id ++ " ****",
    settings.tool.commandLine t extraArgs] ++ said
  verdict := verdict

/-- What the log says of a call that is over. -/
def exitLines (code : Int) (output : String) : List String :=
  ["test script exited with status: " ++ toString code,
    String.ofList (output.toList.rdropWhile (· = '\n'))]

/-- The trial that a reply makes of a test. -/
inductive Test.Tried (settings : Settings) (extraArgs : List String) (t : Test) :
    Reply → Trial → Prop where
  | notLaunched (message : String) :
    t.Tried settings extraArgs (.notLaunched message)
      (t.trial settings extraArgs
        ["[ERROR] " ++ message, "**** TEST FINISHED WITH STATUS: error ****"] (.ok none))
  | judged {code : Int} {o : Outcome} (output : String)
    (row : settings.exitCodes.Row t.expected code o) :
    t.Tried settings extraArgs (.exited code output)
      (t.trial settings extraArgs
        (exitLines code output ++
          ["**** TEST FINISHED WITH STATUS: " ++ o.name.toLower ++ " ****"])
        (.ok (some o)))
  | unresolved {code : Int} (output : String) (declared : t.expected.isExpectation = true)
    (success : code ≠ settings.exitCodes.success) (failure : code ≠ settings.exitCodes.failure) :
    t.Tried settings extraArgs (.exited code output)
      (t.trial settings extraArgs
        (exitLines code output ++ ["**** TEST FINISHED WITH STATUS: unresolved ****"])
        (.error (.failure (.unresolvedStatus t.id t.path code))))
  | undeclared (code : Int) (output : String) (undeclared : t.expected.isExpectation = false) :
    t.Tried settings extraArgs (.exited code output)
      (t.trial settings extraArgs (exitLines code output)
        (.error (.failure (.invalidExpectation t.expected.name t.listing {}))))

/-- A run by the replies to its calls: `judged` are the trials before the one that ends it, `last`
is that one, if there is one, and `rest` are the tests from that of `last` on. -/
structure RunResult.Follows (settings : Settings) (extraArgs : List String)
    (replies : Nat → Reply) (tests : List Test) (judged : List Trial) (last : Option Trial)
    (rest : List Test) (r : RunResult) (called : List String) : Prop where
  split : tests = judged.map (·.test) ++ rest
  ends : last.map (·.test) = rest.head?
  tried : ∀ (i : Nat) (u : Trial), (judged ++ last.toList)[i]? = some u →
    u.test.Tried settings extraArgs (replies i) u
  passed : ∀ (i : Nat) (u : Trial), judged[i]? = some u →
    ¬ u.test.Fatal settings.exitCodes (replies i)
  fatal : ∀ u, last = some u → u.test.Fatal settings.exitCodes (replies judged.length)
  stop : r.stop = last.bind Trial.stop?
  called : called = (judged ++ last.toList).map fun u => settings.tool.commandLine u.test extraArgs
  log : r.log = String.join (((judged ++ last.toList).flatMap Trial.block).map (· ++ "\n"))
  notices : r.notices = Notice.ofTrials tests.length 0 judged
  stats : r.stats = .ofTrials judged
  once : (r.stats.results.map Test.id).Nodup
  results : r.tests = judged.map (fun u => { u.test with result := u.outcome? }) ++ rest

section Classification

theorem row_of_classify {codes : ExitCodes} {t : Test} {code : Int} {o : Outcome}
    (h : codes.classify t code = .ok o) : codes.Row t.expected code o := by
  unfold ExitCodes.classify at h
  cases expected : t.expected with
  | fail | xpass =>
    rw [expected] at h
    cases h
  | pass | xfail =>
    rw [expected] at h
    dsimp only at h
    split at h
    · rename_i success
      subst success
      cases h
      constructor
    · rename_i other
      split at h
      · rename_i failure
        subst failure
        cases h
        constructor
        exact other
      · cases h

theorem classify_of_undeclared (codes : ExitCodes) {t : Test} (code : Int)
    (undeclared : t.expected.isExpectation = false) :
    codes.classify t code = .error (.invalidExpectation t.expected.name t.listing {}) := by
  unfold ExitCodes.classify
  cases expected : t.expected with
  | pass | xfail => rw [expected] at undeclared; cases undeclared
  | fail | xpass => rfl

end Classification

theorem Outcome.status_eq_toLower (o : Outcome) : o.status = o.name.toLower := by
  cases o <;> decide +kernel

section Replies

variable {settings : Settings} {extraArgs : List String} {replies : Nat → Reply}

theorem tried_ofReply (t : Test) (reply : Reply) :
    t.Tried settings extraArgs reply (Trial.ofReply settings extraArgs t reply) := by
  cases reply with
  | notLaunched message => exact .notLaunched message
  | exited code output =>
    cases classified : settings.exitCodes.classify t code with
    | ok o =>
      simp only [Trial.ofReply, classified, o.status_eq_toLower]
      exact .judged output (row_of_classify classified)
    | error f =>
      cases declared : t.expected.isExpectation with
      | false =>
        have refused := classify_of_undeclared settings.exitCodes code declared
        rw [classified] at refused
        cases refused
        simp only [Trial.ofReply, classified]
        exact .undeclared code output declared
      | true =>
        obtain ⟨success, failure, rfl⟩ := classify_error declared classified
        simp only [Trial.ofReply, classified]
        exact .unresolved output declared success failure

/-- A trial made by a reply stops its run exactly if the reply is fatal to the test. -/
theorem fatal_iff_stop? {t : Test} {reply : Reply} {u : Trial}
    (tried : t.Tried settings extraArgs reply u) :
    t.Fatal settings.exitCodes reply ↔ u.isJudged = false := by
  cases tried with
  | notLaunched message =>
    refine iff_of_false ?_ Bool.noConfusion
    rintro ⟨code, output, ⟨⟩, -⟩
  | judged output row =>
    refine iff_of_false ?_ Bool.noConfusion
    rintro ⟨code, output, replied, wrong⟩
    cases replied
    generalize t.expected = expected at row wrong
    cases row <;> simp [Outcome.isExpectation] at wrong
  | unresolved output declared success failure =>
    exact iff_of_true ⟨_, output, rfl, .inr ⟨success, failure⟩⟩ rfl
  | undeclared code output undeclared => exact iff_of_true ⟨code, output, rfl, .inl undeclared⟩ rfl

theorem trials_inTurn (tests : List Test) (past : List String) :
    (Executor.inTurn replies).trials settings extraArgs tests past =
      tests.mapIdx fun i t => Trial.ofReply settings extraArgs t (replies (past.length + i)) := by
  induction tests generalizing past with
  | nil => rfl
  | cons t ts ih =>
    have called : ((Executor.inTurn replies) (settings.tool.commandLine t extraArgs)).run past =
        (.ok (replies past.length), past ++ [settings.tool.commandLine t extraArgs]) := rfl
    have shift (i : Nat) : past.length + 1 + i = past.length + (i + 1) := by omega
    simp only [Executor.trials, called, ih, List.length_append, List.length_singleton, shift,
      List.mapIdx_cons, Nat.add_zero, Trial.ofAnswer]

theorem Test.Tried.command_eq {t : Test} {reply : Reply} {u : Trial}
    (tried : t.Tried settings extraArgs reply u) :
    u.command = settings.tool.commandLine t extraArgs := by
  cases tried <;> rfl

theorem called_inTurn (total k : Nat) (s : Stats) (tests : List Test) (past : List String) :
    let run := (RunResult.runFrom settings extraArgs (.inTurn replies) total k s tests).run past
    run.2 = past ++ run.1.commands := by
  induction tests generalizing k s past with
  | nil =>
    simp only [RunResult.runFrom, run_pure, RunResult.commands, List.filterMap_nil,
      List.append_nil]
  | cons t ts ih =>
    have called : ((Executor.inTurn replies) (settings.tool.commandLine t extraArgs)).run past =
        (.ok (replies past.length), past ++ [settings.tool.commandLine t extraArgs]) := rfl
    have command : (Trial.ofAnswer settings extraArgs t (.ok (replies past.length))).command =
        settings.tool.commandLine t extraArgs := (tried_ofReply t (replies past.length)).command_eq
    simp only [RunResult.runFrom, run_bind, called]
    split
    · simp only [run_pure, RunResult.commands, List.filterMap_cons, List.filterMap_nil, command]
    · split
      · simp only [run_pure, RunResult.commands, List.filterMap_cons, List.filterMap_nil, command]
      · simp only [run_bind, run_pure, ih]
        simp only [RunResult.commands, List.filterMap_cons, command, List.append_assoc,
          List.singleton_append]

theorem nodup_results_ofTrials {us : List Trial} (distinct : (us.map (·.test.id)).Nodup) :
    ((Stats.ofTrials us).results.map Test.id).Nodup :=
  distinct.sublist (map_id_recorded_sublist _ us)

theorem trials_ofTrials (total : Nat) (us : List Trial) :
    (RunResult.ofTrials total [] us).trials =
      us.takeWhile Trial.isJudged ++ (us.dropWhile Trial.isJudged).head?.toList := by
  let judged : RunResult := { RunResult.ofTrials total [] us with
    events := RunEvent.ofTrials total 0 (us.takeWhile Trial.isJudged) }
  have before : judged.trials = us.takeWhile Trial.isJudged := trials_of_events rfl
  simp only [judged, RunResult.trials] at before
  simp only [RunResult.trials, RunResult.ofTrials, List.filterMap_append, List.length_nil, before]
  cases (us.dropWhile Trial.isJudged).head? <;> rfl

theorem notices_ofTrials (total : Nat) (us : List Trial) :
    (RunResult.ofTrials total [] us).notices =
      Notice.ofTrials total 0 (us.takeWhile Trial.isJudged) := by
  let judged : RunResult := { RunResult.ofTrials total [] us with
    events := RunEvent.ofTrials total 0 (us.takeWhile Trial.isJudged) }
  have before : judged.notices = Notice.ofTrials total 0 (us.takeWhile Trial.isJudged) :=
    notices_of_events rfl
  simp only [judged, RunResult.notices] at before
  simp only [RunResult.notices, RunResult.ofTrials, List.filterMap_append, List.length_nil, before]
  cases (us.dropWhile Trial.isJudged).head? <;> simp

theorem executed_front (us : List Trial) :
    us.takeWhile Trial.isJudged ++ (us.dropWhile Trial.isJudged).head?.toList <+: us := by
  have first : (us.dropWhile Trial.isJudged).head?.toList <+: us.dropWhile Trial.isJudged := by
    cases us.dropWhile Trial.isJudged with
    | nil => exact List.nil_prefix
    | cons u others => exact ⟨others, rfl⟩
  have both := (List.prefix_append_right_inj (us.takeWhile Trial.isJudged)).mpr first
  rwa [List.takeWhile_append_dropWhile] at both

theorem getElem?_of_front {α : Type} {xs ys : List α} (front : xs <+: ys) {i : Nat} {a : α}
    (found : xs[i]? = some a) : ys[i]? = some a := by
  obtain ⟨more, rfl⟩ := front
  rw [List.getElem?_append_left (List.getElem?_eq_some_iff.mp found).1, found]

theorem follows_ofTrials {tests : List Test} {us : List Trial} {called : List String}
    (distinct : (tests.map Test.id).Nodup) (unrun : ∀ t ∈ tests, t.result = none)
    (of_tests : us.map (·.test) = tests)
    (tried : ∀ (i : Nat) (u : Trial), us[i]? = some u →
      u.test.Tried settings extraArgs (replies i) u)
    (told : called = (RunResult.ofTrials tests.length [] us).commands) :
    (RunResult.ofTrials tests.length [] us).Follows settings extraArgs replies tests
      (us.takeWhile Trial.isJudged) (us.dropWhile Trial.isJudged).head?
      ((us.dropWhile Trial.isJudged).map (·.test)) called := by
  have executed : ∀ (i : Nat) (u : Trial),
      (us.takeWhile Trial.isJudged ++ (us.dropWhile Trial.isJudged).head?.toList)[i]? = some u →
      u.test.Tried settings extraArgs (replies i) u :=
    fun i u found => tried i u (getElem?_of_front (executed_front us) found)
  have ids : (us.map (·.test.id)).Nodup := by
    rw [← of_tests, List.map_map] at distinct
    exact distinct
  refine ⟨?_, ?_, executed, ?_, ?_, rfl, ?_, ?_, ?_, rfl, ?_, ?_⟩
  · rw [← List.map_append, List.takeWhile_append_dropWhile, of_tests]
  · rw [List.head?_map]
  · intro i u found
    have made := executed i u (getElem?_of_front (List.prefix_append _ _) found)
    rw [fatal_iff_stop? made, List.mem_takeWhile_imp (List.mem_of_getElem? found)]
    exact Bool.noConfusion
  · intro u first
    have made := executed (us.takeWhile Trial.isJudged).length u (by simp [first])
    have stops := List.head?_dropWhile_not Trial.isJudged us
    rw [first] at stops
    exact (fatal_iff_stop? made).mpr stops
  · rw [told, commands_eq_map_trials, trials_ofTrials]
    refine List.map_congr_left fun u member => ?_
    obtain ⟨i, found⟩ := List.mem_iff_getElem?.mp member
    exact (executed i u found).command_eq
  · rw [log_eq_join_lines, trials_ofTrials]
  · exact notices_ofTrials _ _
  · have before : ((us.takeWhile Trial.isJudged).map (·.test.id)).Nodup :=
      ids.sublist ((List.takeWhile_sublist _).map _)
    exact nodup_results_ofTrials before
  · refine congrArg (· ++ _) (List.map_congr_left fun u member => done_of_unrun (unrun u.test ?_))
    rw [← of_tests]
    exact List.mem_map_of_mem ((List.takeWhile_sublist _).subset member)

end Replies

/-- A run that takes one test after the other goes by the replies to its calls: it calls the tool
for each test up to the first whose reply is fatal, and that one, and says and records what the
replies make of them. -/
theorem run_follows_replies (settings : Settings) (extraArgs : List String)
    (complete : List Test → List Test) {workers : Option Int} {tests : List Test}
    (alone : RunResult.isParallel (workers.getD settings.maxWorkers) tests = false)
    (distinct : (tests.map Test.id).Nodup) (unrun : ∀ t ∈ tests, t.result = none)
    (replies : Nat → Reply) :
    let run := (RunResult.run settings extraArgs (.inTurn replies) complete workers tests).run []
    ∃ judged last rest,
      run.1.Follows settings extraArgs replies tests judged last rest run.2 := by
  intro run
  have same : run = (RunResult.runFrom settings extraArgs (.inTurn replies) tests.length 0 {}
      tests).run [] := by
    simp only [run, RunResult.run, alone, Bool.false_eq_true, if_false]
    rfl
  have told : run.2 = [] ++ run.1.commands := by
    rw [same]
    exact called_inTurn tests.length 0 {} tests []
  have result : run.1 = RunResult.ofTrials tests.length []
      ((Executor.inTurn replies).trials settings extraArgs tests []) := by
    rw [same]
    exact runFrom_eq_ofTrials settings extraArgs (.inTurn replies) tests.length tests [] [] distinct
  rw [List.nil_append] at told
  rw [result] at told ⊢
  refine ⟨_, _, _, follows_ofTrials distinct unrun (map_test_trials settings extraArgs _ tests [])
    ?_ told⟩
  intro i u found
  rw [trials_inTurn, List.getElem?_mapIdx, Option.map_eq_some_iff] at found
  obtain ⟨t, -, rfl⟩ := found
  rw [test_ofReply, List.length_nil, Nat.zero_add]
  exact tried_ofReply t (replies i)

/-- Of five tests one fails, one finds no tool although no test may expect what it does, one fails
as expected, and the fourth gets a code without a meaning. -/
theorem run_follows_replies_to_four :
    let a : Test := ⟨1, "a", "", .pass, "", none⟩
    let b : Test := ⟨2, "b", "", .fail, "", none⟩
    let c : Test := ⟨3, "c", "", .xfail, "", none⟩
    let d : Test := ⟨4, "d", "", .pass, "", none⟩
    let e : Test := ⟨5, "e", "", .pass, "", none⟩
    let replies : Nat → Reply := fun
      | 1 => .notLaunched "no tool"
      | 3 => .exited 7 "out\n\n"
      | _ => .exited 99 ""
    let run := (RunResult.run {} ["-v"] (.inTurn replies) id none [a, b, c, d, e]).run []
    RunResult.isParallel 1 [a, b, c, d, e] = false ∧ ([a, b, c, d, e].map Test.id).Nodup ∧
      (∀ t ∈ [a, b, c, d, e], t.result = none) ∧
      run.1.notices.map Notice.outcome = [some .fail, none, some .xfail] ∧ run.2.length = 4 ∧
      ∃ judged last rest,
        run.1.Follows {} ["-v"] replies [a, b, c, d, e] judged last rest run.2 := by
  intro a b c d e replies run
  have distinct : ([a, b, c, d, e].map Test.id).Nodup := by decide
  have unrun : ∀ t ∈ [a, b, c, d, e], t.result = none := by decide
  exact ⟨by decide, distinct, unrun, by decide +kernel, by decide +kernel,
    run_follows_replies {} ["-v"] id (by decide) distinct unrun replies⟩

end TestBench
