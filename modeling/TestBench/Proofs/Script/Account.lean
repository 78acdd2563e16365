import TestBench.Proofs.Script.Calls

/-! The account of a whole run: its calls and the errors that it swallows, read off its visits. The
account is kept along a run, whether or not an error ends it, by induction on the script. -/
namespace TestBench

namespace ScriptM

variable {α β : Type}

/-- The activity makes no calls. -/
def Quiet (x : ScriptM α) : Prop :=
  ∀ s, s.SameRecord (x.run s).2 ∧ refusedBy (x.run s).1 = false

theorem quiet_pure (a : α) : (pure a : ScriptM α).Quiet :=
  fun s => ⟨.refl s, rfl⟩

theorem quiet_get : (get : ScriptM ScriptState).Quiet :=
  fun s => ⟨.refl s, rfl⟩

theorem quiet_throw {e : Stop} (other : e.isInvalidExpectation = false) :
    (throw e : ScriptM α).Quiet :=
  fun s => ⟨.refl s, other⟩

theorem quiet_ofExcept {ε : Type} {toStop : ε → Stop} {r : Except ε α}
    (other : ∀ e, r = .error e → (toStop e).isInvalidExpectation = false) :
    (ofExcept toStop r).Quiet := by
  cases r with
  | ok a => exact quiet_pure a
  | error e => exact quiet_throw (other e rfl)

theorem quiet_bind {x : ScriptM α} {f : α → ScriptM β} (first : x.Quiet)
    (rest : ∀ a, (f a).Quiet) : (x >>= f).Quiet := by
  intro s
  obtain ⟨same, unrefused⟩ := first s
  rw [run_bind]
  rcases run : x.run s with ⟨result, s'⟩
  rw [run] at same unrefused
  cases result with
  | error e => exact ⟨same, unrefused⟩
  | ok a =>
    obtain ⟨more, last⟩ := rest a s'
    exact ⟨same.trans more, last⟩

end ScriptM

open ScriptM

theorem quiet_assign (name : String) (v : Value) : (assign name v).Quiet :=
  fun _ => ⟨⟨rfl, rfl, rfl⟩, rfl⟩

theorem quiet_evalCall (p : Primitive) (arguments : Arguments) : (evalCall p arguments).Quiet :=
  quiet_bind quiet_get fun _ => quiet_ofExcept fun _ _ => rfl

theorem quiet_enterLoop (fs : FileSystem) (arguments : Arguments) :
    (enterLoop fs arguments).Quiet :=
  quiet_bind (quiet_evalCall _ _) fun _ =>
    quiet_ofExcept fun _ failed => not_invalid_of_directories failed

theorem not_invalid_of_raised (kind : String) (v : Value) :
    (raisedStop kind v).isInvalidExpectation = false := by
  unfold raisedStop
  split
  · rfl
  · split <;> rfl

/-- The visits account for what a run from one state to another has left: their calls thread the
states, and of the calls that were refused all but the one that ends the run, if one does, are
swallowed. -/
structure Accounts (fs : FileSystem) {α : Type} (s : ScriptState) (vs : List Visit)
    (r : Except Stop α × ScriptState) : Prop where
  threads : Threads s (vs.filterMap Visit.made?) r.2
  refused : (vs.filterMap Visit.made?).countP Made.isRefused =
    (vs.filterMap (Visit.swallowed? fs)).countP Stop.isInvalidExpectation + (refusedBy r.1).toNat

section Accounts

variable {α β : Type} {fs : FileSystem} {s : ScriptState} {vs : List Visit}

theorem accounts_bind {x : ScriptM α} {f : α → ScriptM β} {ws : α → ScriptState → List Visit}
    (first : Accounts fs s vs (x.run s))
    (rest : ∀ a s', x.run s = (.ok a, s') → Accounts fs s' (ws a s') ((f a).run s')) :
    Accounts fs s (vs ++ x.after s ws) ((x >>= f).run s) := by
  rw [run_bind, after]
  rcases run : x.run s with ⟨result, s'⟩
  rw [run] at first
  cases result with
  | error e =>
    rw [List.append_nil]
    exact ⟨first.threads, first.refused⟩
  | ok a =>
    have more := rest a s' run
    constructor
    · rw [List.filterMap_append]
      exact first.threads.append more.threads
    · have here := first.refused
      have there := more.refused
      simp only [List.filterMap_append, List.countP_append, refusedBy, Bool.toNat_false]
        at here there ⊢
      omega

theorem accounts_then_quiet {x : ScriptM α} {f : α → ScriptM β}
    (first : Accounts fs s vs (x.run s)) (rest : ∀ a, (f a).Quiet) :
    Accounts fs s vs ((x >>= f).run s) := by
  have nothing : x.after s (fun _ _ => ([] : List Visit)) = [] := by
    unfold after
    split <;> rfl
  have bound : Accounts fs s (vs ++ x.after s fun _ _ => []) ((x >>= f).run s) := by
    refine accounts_bind first fun a s' _ => ?_
    obtain ⟨same, unrefused⟩ := rest a s'
    exact ⟨.nil same, by simp [unrefused]⟩
  rwa [nothing, List.append_nil] at bound

theorem accounts_quiet {x : ScriptM α} (quiet : x.Quiet) {v : Visit} (uncalled : v.made? = none)
    (unswallowed : v.swallowed? fs = none) (s : ScriptState) : Accounts fs s [v] (x.run s) := by
  obtain ⟨same, unrefused⟩ := quiet s
  constructor
  · simpa [uncalled] using .nil same
  · simp [uncalled, unswallowed, unrefused]

/-! Along the shape of the script. -/

/-- A step that calls has its call as its only account; what it does with the value touches no
record. -/
theorem accounts_test (arguments : Arguments) (into : Option String) (s : ScriptState) :
    Accounts fs s [⟨.test arguments into, s⟩] ((runStep fs (.test arguments into)).run s) := by
  have unswallowed : Visit.swallowed? fs ⟨.test arguments into, s⟩ = none := rfl
  have called : Accounts fs s [⟨.test arguments into, s⟩]
      ((evalCall .test arguments >>= declareTest).run s) := by
    rw [run_call]
    cases evaluated : Call.ofArguments s.vars arguments with
    | error f =>
      have uncalled : Visit.made? ⟨.test arguments into, s⟩ = none := by
        simp only [Visit.made?, evaluated]
      exact accounts_quiet (quiet_throw rfl) uncalled unswallowed s
    | ok call =>
      have made : Visit.made? ⟨.test arguments into, s⟩ = some ⟨call, s⟩ := by
        simp only [Visit.made?, evaluated]
      constructor
      · rw [List.filterMap_cons, made]
        exact .cons (.refl s) (.nil (.refl _))
      · rw [List.filterMap_cons, made, List.filterMap_cons_none unswallowed]
        change List.countP _ [_] = 0 + (Made.isRefused ⟨call, s⟩).toNat
        cases refused : Made.isRefused ⟨call, s⟩ <;> simp [refused]
  rw [runStep, ← bind_assoc]
  refine accounts_then_quiet called fun declared => ?_
  cases into with
  | none => exact quiet_pure _
  | some name => exact quiet_assign _ _

theorem accounts_attempt {body : List Step}
    (inner : Accounts fs s (stepsVisits fs body s) ((runSteps fs body).run s)) :
    Accounts fs s (⟨.attempt body, s⟩ :: stepsVisits fs body s)
      ((runStep fs (.attempt body)).run s) := by
  obtain ⟨threads, refused⟩ := inner
  have uncalled : Visit.made? ⟨.attempt body, s⟩ = none := rfl
  have swallowed : Visit.swallowed? fs ⟨.attempt body, s⟩ =
    heldBack? ((runSteps fs body).run s).1 := rfl
  simp only [runStep, run_tryCatch]
  constructor
  · rw [List.filterMap_cons_none uncalled]
    rcases run : (runSteps fs body).run s with ⟨result, s'⟩
    rw [run] at threads
    rcases result with e | ⟨⟩
    · cases e <;> exact threads
    · exact threads
  · rw [List.filterMap_cons_none uncalled, List.filterMap_cons, swallowed, refused]
    rcases (runSteps fs body).run s with ⟨e | ⟨⟩, s'⟩
    · cases e with
      | escape kind v => rfl
      | fault f => simp [heldBack?, refusedBy, holdBack, run_pure, Stop.isInvalidExpectation]
      | failure f =>
        -- what ended the body is now swallowed
        cases h : (Stop.failure f).isInvalidExpectation <;>
          simp [heldBack?, refusedBy, holdBack, run_pure, h]
    · rfl

theorem accounts_rounds {name : String} {body : ScriptM Unit} {visits : ScriptState → List Visit}
    (each : ∀ s, Accounts fs s (visits s) (body.run s)) (ds : List String) (s : ScriptState) :
    Accounts fs s (roundVisits name body visits ds s) ((ds.forM (round name body)).run s) := by
  induction ds generalizing s with
  | nil => exact ⟨.nil (.refl s), rfl⟩
  | cons d ds ih =>
    rw [run_forM_cons]
    refine accounts_bind ?_ fun _ s' _ => ih s'
    have bound := each { s with vars := s.vars.set name (.text d) }
    have same : s.SameRecord { s with vars := s.vars.set name (.text d) } := ⟨rfl, rfl, rfl⟩
    rw [run_round]
    exact ⟨bound.threads.of_same same, bound.refused⟩

end Accounts

mutual

theorem accounts_runStep (fs : FileSystem) :
    ∀ step s, Accounts fs s (stepVisits fs step s) ((runStep fs step).run s)
  | .test arguments into, s => accounts_test arguments into s
  | .expand arguments loopVariable body, s => by
    rw [runStep_expand]
    exact accounts_bind (accounts_quiet (quiet_enterLoop fs arguments) rfl rfl s) fun ds s' _ =>
      accounts_rounds (accounts_runSteps fs body) ds s'
  | .expandOnly arguments, s =>
    accounts_quiet (quiet_bind (quiet_evalCall _ _) fun _ => quiet_pure _) rfl rfl s
  | .assign name e, s =>
    accounts_quiet (quiet_bind quiet_get fun _ =>
      quiet_bind (quiet_ofExcept fun _ _ => rfl) fun _ => quiet_assign _ _) rfl rfl s
  | .fail kind message, s =>
    accounts_quiet (quiet_bind quiet_get fun _ => quiet_bind (quiet_ofExcept fun _ _ => rfl)
      fun v => quiet_throw (not_invalid_of_raised kind v)) rfl rfl s
  | .attempt body, s => accounts_attempt (accounts_runSteps fs body s)

theorem accounts_runSteps (fs : FileSystem) :
    ∀ steps s, Accounts fs s (stepsVisits fs steps s) ((runSteps fs steps).run s)
  | [], s => ⟨.nil (.refl s), rfl⟩
  | step :: steps, s => accounts_bind (accounts_runStep fs step s) fun _ s' _ =>
      accounts_runSteps fs steps s'

end

namespace Script

def calls (fs : FileSystem) (file : String) (next : Int) (script : Script) : List Made :=
  (script.visits fs file next).filterMap Visit.made?

def swallowed (fs : FileSystem) (file : String) (next : Int) (script : Script) : List Stop :=
  (script.visits fs file next).filterMap (Visit.swallowed? fs)

end Script

/-- What loads scripts: the id that comes next, and what the script before has left. -/
structure Loader where
  next : Int
  tests : List Test := []
  skipped : List String := []

/-- Loads a script: gives its tests unless it ends with an error, and keeps what it has left. -/
def Loader.load (fs : FileSystem) (file : String) (script : Script) (l : Loader) :
    Except Stop (List Test) × Loader :=
  let r := script.run fs file l.next
  (match r.stop with
    | none => .ok r.tests
    | some e => .error e, { next := r.next, tests := r.tests, skipped := r.skipped })

theorem Loader.load_eq (fs : FileSystem) (file : String) (script : Script) (l : Loader) :
    l.load fs file script =
      let (result, s) := (runSteps fs script).run (Script.start file l.next)
      (match result with
        | .ok _ => .ok s.tests
        | .error e => .error (outerStop file e),
        { next := s.next, tests := s.tests, skipped := s.skipped }) := by
  have run : script.run fs file l.next =
      let (result, s) := (runSteps fs script).run (Script.start file l.next)
      { stop := match result with
          | .ok _ => none
          | .error e => some (outerStop file e)
        next := s.next, tests := s.tests, skipped := s.skipped } := rfl
  rw [load, run]
  rcases (runSteps fs script).run (Script.start file l.next) with ⟨e | ⟨⟩, s⟩ <;> rfl

/-- Every call, in the state that the calls before it have left, declares a test, passes a path over
or ends with an error, and takes an id for a test or a refused expectation, exactly if no option of
its test holds a number that is too long to be shown; else the id is taken for nothing. A script
leaves what its calls have declared and passed over and nothing of what was there before. One that
succeeds has taken no ids but those of its tests and of the refusals that it swallowed exactly if no
call has such an option. -/
theorem script_accounts_for_calls_iff (fs : FileSystem) (file : String) (script : Script)
    (l : Loader) :
    let calls := script.calls fs file l.next
    let loaded := l.load fs file script
    (∀ m ∈ calls, (m.call.Ends m.state m.result ↔ ¬ m.call.Unshown) ∧
      (m.call.Unshown →
        m.result = (.error (.fault .longNumber), { m.state with next := m.state.next + 1 }))) ∧
    (∃ last, Threads (Script.start file l.next) calls last ∧ last.tests = loaded.2.tests ∧
      last.skipped = loaded.2.skipped ∧ last.next = loaded.2.next) ∧
    loaded.2.tests = calls.filterMap Made.declared? ∧
    loaded.2.skipped = calls.filterMap Made.skipped? ∧
    loaded.2.next = l.next + (calls.filterMap Made.declared?).length +
      calls.countP Made.isRefused + calls.countP Made.isUnshown ∧
    ∀ tests, loaded.1 = .ok tests → tests = calls.filterMap Made.declared? ∧
      (loaded.2.next = l.next + tests.length +
          (script.swallowed fs file l.next).countP Stop.isInvalidExpectation ↔
        ∀ m ∈ calls, ¬ m.call.Unshown) := by
  intro calls loaded
  have account := accounts_runSteps fs script (Script.start file l.next)
  have load : loaded = _ := l.load_eq fs file script
  rcases run : (runSteps fs script).run (Script.start file l.next) with ⟨result, last⟩
  rw [run] at account load
  have threads : Threads (Script.start file l.next) calls last := account.threads
  obtain ⟨tests, skipped, next⟩ := threads.totals
  rw [show (Script.start file l.next).tests = [] from rfl, List.nil_append] at tests
  rw [show (Script.start file l.next).skipped = [] from rfl, List.nil_append] at skipped
  rw [show (Script.start file l.next).next = l.next from rfl] at next
  have ends (m : Made) (_ : m ∈ calls) := And.intro (m.call.ends_iff m.state)
    (m.call.run_of_unshown m.state)
  rw [load]
  refine ⟨ends, ⟨last, threads, rfl, rfl, rfl⟩, tests, skipped, next, ?_⟩
  intro given succeeded
  cases result with
  | error e => cases succeeded
  | ok =>
    cases succeeded
    have refused : calls.countP Made.isRefused =
        (script.swallowed fs file l.next).countP Stop.isInvalidExpectation := account.refused
    have none_lost : calls.countP Made.isUnshown = 0 ↔ ∀ m ∈ calls, ¬ m.call.Unshown := by
      simp only [List.countP_eq_zero, Made.isUnshown_iff]
    refine ⟨tests, ?_⟩
    rw [tests, ← none_lost, ← refused]
    simp only [next]
    omega

/-- Three errors are swallowed, of which one is a refusal and one a number that cannot be shown, both
at the cost of an id; a path is passed over although its expectation is none; a loop declares the
last test. -/
theorem script_accounts_for_six_calls :
    let fs := ({ directories := ["r", "r/a"] } : PathTable).fileSystem
    let word (s : String) : Expr := .value (.text s)
    let script : Script :=
      [.test { path := word "a", named := [("expected", .variable "XFAIL")] } (some "t"),
        .attempt [.test { path := word "b", named := [("expected", word "FAIL")] } none,
          .test { path := word "never" } none],
        .attempt [.test { path := word "l", named := [("args", .value (.int Value.longNumber))] }
          none],
        .test { path := word "c/x", options := some (.mapping
          [("skip", .list [word "", word "x"]), ("expected", .value (.int 3))]) } none,
        .attempt [.test { path := .variable "t", named := [("timeout", .value (.int 5))] } none],
        .expand { path := word "r" } "d" [.test { path := .variable "d" } none]]
    let l : Loader := { next := 5, tests := [⟨1, "old", "", .pass, "", none⟩], skipped := ["old"] }
    let calls := script.calls fs "f.py" 5
    let loaded := l.load fs "f.py" script
    calls.length = 6 ∧ loaded.2.skipped = ["c/x"] ∧ loaded.2.next = 9 ∧
      ∃ tests, loaded.1 = .ok tests ∧
        tests.map (fun t => (t.id, t.path)) = [(5, "a"), (8, "r/a")] ∧
        tests = calls.filterMap Made.declared? ∧
        ∃ m ∈ calls, m.call.Unshown := by
  intro fs word script l calls loaded
  obtain ⟨tests, ok⟩ : ∃ tests, loaded.1 = .ok tests := exists_ok (by decide +kernel)
  have shown : loaded.2.tests.map (fun t => (t.id, t.path)) =
      [(5, "a"), (8, "r/a")] := by decide +kernel
  have next : loaded.2.next = 9 := by decide +kernel
  have refusals : (script.swallowed fs "f.py" 5).countP Stop.isInvalidExpectation = 1 := by
    decide +kernel
  obtain ⟨-, -, left, -, -, success⟩ := script_accounts_for_calls_iff fs "f.py" script l
  obtain ⟨returned, accounted⟩ := success tests ok
  have two : tests.length = 2 := by
    rw [returned, ← left, ← List.length_map, shown]
    rfl
  refine ⟨by decide +kernel, by decide +kernel, next, tests, ok, ?_, returned, ?_⟩
  · rw [returned, ← left]
    exact shown
  · -- nine is not what the tests and the refusal have taken
    by_contra none_long
    have taken := accounted.mpr fun m mem unshown => none_long ⟨m, mem, unshown⟩
    rw [refusals, two] at taken
    cases next.symm.trans taken

/-- A script that swallows the error of an argument too long to be shown has spent an id on it. -/
theorem id_spent_on_long_argument :
    let fs := ({} : PathTable).fileSystem
    let word (s : String) : Expr := .value (.text s)
    let script : Script :=
      [.attempt [.test { path := word "a", named := [("args", .value (.int Value.longNumber))] }
          none],
        .test { path := word "b" } none]
    let loaded := ({ next := 1 } : Loader).load fs "f.py" script
    (∃ m ∈ script.calls fs "f.py" 1, ¬ m.call.Ends m.state m.result) ∧
      ∃ tests, loaded.1 = .ok tests ∧ tests.map (fun t => (t.id, t.path)) = [(2, "b")] ∧
        loaded.2.next ≠ 1 + tests.length +
          (script.swallowed fs "f.py" 1).countP Stop.isInvalidExpectation := by
  intro fs word script loaded
  let call : Call :=
    { path := .text "a", options := none, named := [("args", .int Value.longNumber)] }
  have unshown : call.Unshown :=
    ⟨[(.text "args", .int Value.longNumber)], "a", [], ⟨⟨call, rfl, rfl⟩, rfl, .absent rfl⟩,
      by simp, .args rfl (by decide +kernel)⟩
  have made : ⟨call, Script.start "f.py" 1⟩ ∈ script.calls fs "f.py" 1 := List.mem_cons_self
  obtain ⟨tests, ok⟩ : ∃ tests, loaded.1 = .ok tests := exists_ok (by decide +kernel)
  have shown : tests.map (fun t => (t.id, t.path)) = [(2, "b")] := by
    have kept : (loaded.1.toOption.getD []).map (fun t => (t.id, t.path)) = [(2, "b")] := by
      decide +kernel
    rwa [ok] at kept
  have next : loaded.2.next = 3 := by decide +kernel
  have none_refused : (script.swallowed fs "f.py" 1).countP Stop.isInvalidExpectation = 0 := by
    decide +kernel
  have one : tests.length = 1 := by simpa using congrArg List.length shown
  refine ⟨⟨_, made, fun ends => (call.ends_iff _).mp ends unshown⟩, tests, ok, shown, ?_⟩
  rw [next, none_refused, one]
  decide

end TestBench
