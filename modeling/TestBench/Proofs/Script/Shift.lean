import TestBench.Proofs.Script.Calls
import TestBench.Proofs.Script.Reads

/-! Two runs of a script whose ids begin at different places. As long as no step looks up a test,
the runs go the same way; their states are the same but for the ids of tests. -/
namespace TestBench

/-- The test with its id moved. -/
def Test.shift (d : Int) (t : Test) : Test :=
  { t with id := t.id + d }

/-- The second state is the first with all ids moved. Tests among the values of variables may be
moved or not. -/
structure ScriptState.Shifted (d : Int) (s s' : ScriptState) : Prop where
  next : s'.next = s.next + d
  tests : s'.tests = s.tests.map (Test.shift d)
  skipped : s'.skipped = s.skipped
  vars : ∀ name, s'.vars.get? name = s.vars.get? name ∨
    ∃ t, s.vars.get? name = some (.test t) ∧ s'.vars.get? name = some (.test (t.shift d))

/-- The second run leaves what the first leaves, moved: a value by the given function, and the
state. -/
def Shifts {α : Type} (d : Int) (move : α → α) (r r' : Except Stop α × ScriptState) : Prop :=
  r'.1 = r.1.map move ∧ r.2.Shifted d r'.2

section Shift

variable {d : Int} {s s' : ScriptState} {α β : Type}

open ScriptM

theorem ScriptState.Shifted.set (shifted : s.Shifted d s') (name : String) {v v' : Value}
    (similar : v' = v ∨ ∃ t, v = .test t ∧ v' = .test (t.shift d)) :
    ScriptState.Shifted d { s with vars := s.vars.set name v }
      { s' with vars := s'.vars.set name v' } := by
  refine ⟨shifted.next, shifted.tests, shifted.skipped, fun other => ?_⟩
  simp only [Bindings.get?_set]
  split
  · rcases similar with rfl | ⟨t, rfl, rfl⟩
    · exact .inl rfl
    · exact .inr ⟨t, rfl, rfl⟩
  · exact shifted.vars other

theorem agree_of_unused (shifted : s.Shifted d s') {step : Step}
    (unused : ¬ (Visit.mk step s).UsesTest) :
    Variables.AgreeOn (step.reads s.vars) s.vars s'.vars := by
  intro name looked_up
  rcases shifted.vars name with same | ⟨t, holds, -⟩
  · exact same
  · exact absurd ⟨name, looked_up, t, holds⟩ unused

theorem shifts_bind {x x' : ScriptM α} {f f' : α → ScriptM β} {move : α → α} {move' : β → β}
    (first : Shifts d move (x.run s) (x'.run s'))
    (rest : ∀ a t t', x.run s = (.ok a, t) → t.Shifted d t' →
      Shifts d move' ((f a).run t) ((f' (move a)).run t')) :
    Shifts d move' ((x >>= f).run s) ((x' >>= f').run s') := by
  obtain ⟨result, left⟩ := first
  rw [run_bind, run_bind]
  rcases run : x.run s with ⟨r, t⟩
  rcases run' : x'.run s' with ⟨r', t'⟩
  rw [run, run'] at result left
  obtain rfl : r' = r.map move := result
  cases r with
  | error e => exact ⟨rfl, left⟩
  | ok a => exact rest a t t' run left

theorem shifts_ofExcept {ε : Type} (toStop : ε → Stop) (r : Except ε α)
    (shifted : s.Shifted d s') :
    Shifts d id ((ofExcept toStop r).run s) ((ofExcept toStop r).run s') := by
  cases r with
  | ok a => exact ⟨rfl, shifted⟩
  | error e => exact ⟨rfl, shifted⟩

theorem shifts_assign (shifted : s.Shifted d s') (name : String) {v v' : Value}
    (similar : v' = v ∨ ∃ t, v = .test t ∧ v' = .test (t.shift d)) :
    Shifts d id ((assign name v).run s) ((assign name v').run s') :=
  ⟨rfl, shifted.set name similar⟩

theorem shifts_evalCall (shifted : s.Shifted d s') (p : Primitive) {arguments : Arguments}
    (agree : Variables.AgreeOn (arguments.reads s.vars) s.vars s'.vars) :
    Shifts d id ((evalCall p arguments).run s) ((evalCall p arguments).run s') := by
  simp only [evalCall, run_bind, run_get, Call.ofArguments_of_agree agree]
  exact shifts_ofExcept _ _ shifted

theorem shifts_enterLoop (fs : FileSystem) (shifted : s.Shifted d s') {arguments : Arguments}
    (agree : Variables.AgreeOn (arguments.reads s.vars) s.vars s'.vars) :
    Shifts d id ((enterLoop fs arguments).run s) ((enterLoop fs arguments).run s') :=
  shifts_bind (shifts_evalCall shifted .expand agree) fun _ _ _ _ shifted =>
    shifts_ofExcept _ _ shifted

theorem shifts_declare (shifted : s.Shifted d s') (call : Call) :
    Shifts d (Option.map (Test.shift d)) (call.declare.run s) (call.declare.run s') := by
  have next := shifted.next
  rw [Call.run_declare, Call.run_declare]
  cases call.said with
  | error e => exact ⟨rfl, shifted⟩
  | ok parts =>
    obtain ⟨options, path, suffixes⟩ := parts
    dsimp only
    cases skips path suffixes with
    | error f => exact ⟨rfl, shifted⟩
    | ok skipped =>
      cases skipped with
      | true => exact ⟨rfl, next, shifted.tests, by simp [shifted.skipped], shifted.vars⟩
      | false =>
        dsimp only
        cases testOptions options with
        | error e =>
          exact ⟨rfl, by simp only [next]; omega, shifted.tests, shifted.skipped, shifted.vars⟩
        | ok parts =>
          refine ⟨?_, by simp only [next]; omega, ?_, shifted.skipped, shifted.vars⟩
          · simp [Except.map, Test.shift, next]
          · simp [shifted.tests, Test.shift, next]

theorem shifts_test (fs : FileSystem) (shifted : s.Shifted d s') {arguments : Arguments}
    (into : Option String) (agree : Variables.AgreeOn (arguments.reads s.vars) s.vars s'.vars) :
    Shifts d id ((runStep fs (.test arguments into)).run s)
      ((runStep fs (.test arguments into)).run s') := by
  have called : Shifts d (Option.map (Test.shift d))
      ((evalCall .test arguments >>= declareTest).run s)
      ((evalCall .test arguments >>= declareTest).run s') := by
    rw [run_call, run_call, Call.ofArguments_of_agree agree]
    split
    · exact ⟨rfl, shifted⟩
    · exact shifts_declare shifted _
  rw [runStep, ← bind_assoc]
  refine shifts_bind called fun declared t t' _ shifted => ?_
  cases into with
  | none => exact ⟨rfl, shifted⟩
  | some name =>
    refine shifts_assign shifted name ?_
    cases declared with
    | none => exact .inl rfl
    | some u => exact .inr ⟨u, rfl, rfl⟩

theorem shifts_attempt {fs : FileSystem} {body : List Step}
    (inner : Shifts d id ((runSteps fs body).run s) ((runSteps fs body).run s')) :
    Shifts d id ((runStep fs (.attempt body)).run s) ((runStep fs (.attempt body)).run s') := by
  obtain ⟨result, left⟩ := inner
  simp only [runStep, run_tryCatch]
  rcases run : (runSteps fs body).run s with ⟨r, t⟩
  rcases run' : (runSteps fs body).run s' with ⟨r', t'⟩
  rw [run, run'] at result left
  obtain rfl : r' = r.map id := result
  rcases r with e | ⟨⟩
  · cases e <;> exact ⟨rfl, left⟩
  · exact ⟨rfl, left⟩

theorem shifts_rounds {name : String} {body : ScriptM Unit} {visits : ScriptState → List Visit}
    (each : ∀ s s', s.Shifted d s' → (∀ v ∈ visits s, ¬ v.UsesTest) →
      Shifts d id (body.run s) (body.run s'))
    (ds : List String) (shifted : s.Shifted d s')
    (unused : ∀ v ∈ roundVisits name body visits ds s, ¬ v.UsesTest) :
    Shifts d id ((ds.forM (round name body)).run s) ((ds.forM (round name body)).run s') := by
  induction ds generalizing s s' with
  | nil => exact ⟨rfl, shifted⟩
  | cons dir ds ih =>
    obtain ⟨here, later⟩ := List.forall_mem_append.mp unused
    rw [run_forM_cons, run_forM_cons]
    have first : Shifts d id ((round name body dir).run s) ((round name body dir).run s') := by
      rw [run_round, run_round]
      exact each _ _ (shifted.set name (.inl rfl)) here
    refine shifts_bind first fun _ t t' run shifted => ih shifted ?_
    rw [after, run] at later
    exact later

end Shift

open ScriptM in
mutual

theorem shifts_runStep (fs : FileSystem) {d : Int} :
    ∀ step {s s' : ScriptState}, s.Shifted d s' → (∀ v ∈ stepVisits fs step s, ¬ v.UsesTest) →
      Shifts d id ((runStep fs step).run s) ((runStep fs step).run s')
  | .test arguments into, s, s', shifted, unused =>
    shifts_test fs shifted into (agree_of_unused shifted (unused _ List.mem_cons_self))
  | .expand arguments loopVariable body, s, s', shifted, unused => by
    obtain ⟨here, rounds⟩ := List.forall_mem_cons.mp unused
    rw [runStep_expand]
    refine shifts_bind (shifts_enterLoop fs shifted (agree_of_unused shifted here))
      fun ds t t' run shifted => ?_
    rw [after, run] at rounds
    exact shifts_rounds (fun _ _ => shifts_runSteps fs body) ds shifted rounds
  | .expandOnly arguments, s, s', shifted, unused =>
    shifts_bind (shifts_evalCall shifted .expand
      (agree_of_unused shifted (unused _ List.mem_cons_self))) fun _ _ _ _ shifted => ⟨rfl, shifted⟩
  | .assign name e, s, s', shifted, unused => by
    have agree := agree_of_unused shifted (unused _ List.mem_cons_self)
    simp only [runStep, run_bind, run_get, Expr.eval_of_agree e agree]
    cases e.eval s.vars with
    | error f => exact ⟨rfl, shifted⟩
    | ok v => exact shifts_assign shifted name (.inl rfl)
  | .fail kind message, s, s', shifted, unused => by
    have agree := agree_of_unused shifted (unused _ List.mem_cons_self)
    simp only [runStep, run_bind, run_get, Expr.eval_of_agree message agree]
    cases message.eval s.vars with
    | error f => exact ⟨rfl, shifted⟩
    | ok v => exact ⟨rfl, shifted⟩
  | .attempt body, s, s', shifted, unused =>
    shifts_attempt (shifts_runSteps fs body shifted fun v mem =>
      unused v (List.mem_cons_of_mem _ mem))

theorem shifts_runSteps (fs : FileSystem) {d : Int} :
    ∀ steps {s s' : ScriptState}, s.Shifted d s' → (∀ v ∈ stepsVisits fs steps s, ¬ v.UsesTest) →
      Shifts d id ((runSteps fs steps).run s) ((runSteps fs steps).run s')
  | [], s, s', shifted, unused => ⟨rfl, shifted⟩
  | step :: steps, s, s', shifted, unused => by
    obtain ⟨here, later⟩ := List.forall_mem_append.mp unused
    rw [runSteps]
    refine shifts_bind (shifts_runStep fs step shifted here) fun _ t t' run shifted => ?_
    rw [after, run] at later
    exact shifts_runSteps fs steps shifted later

end

/-- A script that discards its tests does the same wherever its ids begin. -/
theorem Script.run_shift {fs : FileSystem} {file : String} {script : Script}
    (discards : script.DiscardsTests fs file) (next d : Int) :
    script.run fs file (next + d) =
      let r := script.run fs file next
      { r with next := r.next + d, tests := r.tests.map (Test.shift d) } := by
  have start : (Script.start file next).Shifted d (Script.start file (next + d)) :=
    ⟨rfl, rfl, rfl, fun _ => .inl rfl⟩
  obtain ⟨result, left⟩ := shifts_runSteps fs script start (discards next)
  unfold Script.start at result left
  unfold Script.run
  rcases run : (runSteps fs script).run { next, vars := initialVariables file } with ⟨r, t⟩
  rcases run' : (runSteps fs script).run { next := next + d, vars := initialVariables file } with
    ⟨r', t'⟩
  rw [run, run'] at result left
  obtain rfl : r' = r.map id := result
  have next_id := left.next
  have tests := left.tests
  have skipped := left.skipped
  simp only at next_id tests skipped
  cases r <;> simp [Except.map, next_id, tests, skipped]

end TestBench
