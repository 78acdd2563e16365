import TestBench.Proofs.Line.Declaration
import TestBench.Proofs.Script.Growth

/-! The same declarations as lines of a file and as a script. Each front end is compared with what
the declarations mean and not with the other one, whose stages are different. -/
namespace TestBench

namespace Variables

def Knows (vars : Variables) : Prop :=
  ∀ o : Outcome, o.isExpectation = true → vars.get? o.name = some (.outcome o)

theorem knows_initial (file : String) : (initialVariables file).Knows := by
  intro o proper
  cases o with
  | pass => simp [initialVariables, Bindings.get?, Outcome.name]
  | xfail => simp [initialVariables, Bindings.get?, Outcome.name]
  | fail | xpass => cases proper

theorem Knows.set {vars : Variables} (knows : vars.Knows) {name : String}
    (free : ∀ o : Outcome, name ≠ o.name) (v : Value) : Knows (vars.set name v) := by
  intro o proper
  rw [Bindings.get?_set, if_neg (free o), knows o proper]

end Variables

/-- A script says an expectation as a word or by a constant. -/
inductive Spelling where
  | word
  | constant

def Spelling.expr : Spelling → Outcome → Expr
  | .word, o => .value (.text o.name)
  | .constant, o => .variable o.name

theorem Spelling.eval_expr (how : Spelling) {vars : Variables} (knows : vars.Knows) {o : Outcome}
    (proper : o.isExpectation = true) :
    ∃ v, (how.expr o).eval vars = .ok v ∧ v.toExpectation = .ok o := by
  cases how with
  | word =>
    have read : Outcome.ofName? (String.ofList (Text.trim o.name.toList)) = some o := by
      cases o <;> decide +kernel
    refine ⟨.text o.name, rfl, ?_⟩
    simp only [Value.toExpectation, Value.toText_text, read, Outcome.checkExpectation, proper,
      if_true]
  | constant =>
    refine ⟨.outcome o, ?_, ?_⟩
    · simp only [expr, Expr.eval, knows o proper]
    · simp only [Value.toExpectation, Outcome.checkExpectation, proper, if_true]

namespace Declaration

def arguments (how : Spelling) (d : Declaration) (path : Expr) : Arguments :=
  { path, named := [("args", .value (.text d.args)), ("expected", how.expr d.expected),
      ("comment", .value (.text d.comment))] }

/-- A declaration as a step of a script: a test, or a loop over directories with a test in it. -/
def step (how : Spelling) (d : Declaration) : Step :=
  match d.place with
  | .single path => .test (d.arguments how (.value (.text path))) none
  | .below root => .expand { path := .value (.text root) } "d"
      [.test (d.arguments how (.variable "d")) none]

end Declaration

/-- The second state has the tests of the fields besides those of the first, and the expectations
are bound in it. -/
structure ScriptState.Declares (fields : List Fields) (s s' : ScriptState) : Prop where
  tests : s'.tests = s.tests ++ Test.numbered s.next fields
  next : s'.next = s.next + fields.length
  knows : s'.vars.Knows

theorem ScriptState.Declares.refl {s : ScriptState} (knows : s.vars.Knows) : Declares [] s s where
  tests := by simp [Test.numbered]
  next := by simp
  knows := knows

theorem ScriptState.Declares.trans {s s' s'' : ScriptState} {fields more : List Fields}
    (first : Declares fields s s') (rest : Declares more s' s'') :
    Declares (fields ++ more) s s'' where
  tests := by rw [rest.tests, first.tests, first.next, numbered_append, List.append_assoc]
  next := by
    have moved := rest.next
    rw [first.next] at moved
    rw [moved, List.length_append]
    omega
  knows := rest.knows

namespace ScriptM

variable {α : Type}

theorem run_pure (a : α) (s : ScriptState) : (pure a : ScriptM α).run s = (.ok a, s) := rfl

theorem run_ok {ε : Type} (toStop : ε → Stop) (a : α) (s : ScriptState) :
    (ofExcept toStop (.ok a)).run s = (.ok a, s) := rfl

theorem run_get (s : ScriptState) : (get : ScriptM ScriptState).run s = (.ok s, s) := rfl

theorem run_modify (f : ScriptState → ScriptState) (s : ScriptState) :
    (modify f : ScriptM PUnit).run s = (.ok ⟨⟩, f s) := rfl

theorem run_forM_cons (f : α → ScriptM PUnit) (a : α) (as : List α) (s : ScriptState) :
    ((a :: as).forM f).run s = (f a >>= fun _ => as.forM f).run s := rfl

end ScriptM

open ScriptM

namespace Declaration

variable {fs : FileSystem} {d : Declaration} {how : Spelling} {s : ScriptState}

def call (d : Declaration) (path : String) (expected : Value) : Call where
  path := .text path
  options := none
  named := [("args", .text d.args), ("expected", expected), ("comment", .text d.comment)]

def callOptions (d : Declaration) (expected : Value) : List (Value × Value) :=
  [(.text "args", .text d.args), (.text "expected", expected), (.text "comment", .text d.comment)]

theorem run_evalCall {path : Expr} {p : String} {v : Value}
    (located : path.eval s.vars = .ok (.text p))
    (expected : (how.expr d.expected).eval s.vars = .ok v) :
    (evalCall .test (d.arguments how path)).run s = (.ok (d.call p v), s) := by
  have bound : (Call.ofArguments s.vars (d.arguments how path) >>= Call.bind .test) =
      .ok (d.call p v) := by
    simp only [Call.ofArguments, arguments, located, Expr.evalEntries, Expr.eval, expected]
    rfl
  simp only [evalCall, run_bind, run_get, bound, run_ok]

theorem ofFields_fields (d : Declaration) (id : Int) (path : String) :
    Test.ofFields id (d.fields path) = ⟨id, path, d.args, d.expected, d.comment, none⟩ := by
  have named : Outcome.ofName? d.expected.name = some d.expected := ofName?_eq_some_iff.mpr rfl
  simp only [Test.ofFields, fields, String.ofList_toList, named, Option.getD_some]

theorem run_declareTest {v : Value} (expected : v.toExpectation = .ok d.expected) (path : String) :
    (declareTest (d.call path v)).run s =
      (.ok (some (.ofFields s.next (d.fields path))),
        { s with
          next := s.next + 1
          tests := s.tests ++ [.ofFields s.next (d.fields path)] }) := by
  have said : testOptions (d.callOptions v) = .ok (d.args, d.expected, d.comment) := by
    have wanted : optionExpectation (d.callOptions v) = .ok d.expected := expected
    rw [testOptions, wanted]
    rfl
  -- without an option to skip, no path is passed over
  have read : (d.call path v).reading = .ok (d.callOptions v, path, []) := rfl
  rw [ofFields_fields]
  simp only [declareTest, run_bind, read, run_ok, skips, Bool.false_eq_true, if_false, run_get,
    run_modify, said, run_pure]

variable (proper : d.expected.isExpectation = true)
include proper

theorem run_test (fs : FileSystem) (how : Spelling) {path : Expr} {p : String}
    (knows : s.vars.Knows) (located : path.eval s.vars = .ok (.text p)) :
    ∃ s', (runStep fs (.test (d.arguments how path) none)).run s = (.ok ⟨⟩, s') ∧
      s.Declares [d.fields p] s' := by
  obtain ⟨v, said, expected⟩ := how.eval_expr knows proper
  refine ⟨{ s with next := s.next + 1, tests := s.tests ++ [.ofFields s.next (d.fields p)] },
    ?_, ?_⟩
  · simp only [runStep, run_bind, run_evalCall located said, run_declareTest expected, run_pure]
  · exact ⟨by simp [Test.numbered], rfl, knows⟩

theorem run_iteration (how : Spelling) (knows : s.vars.Knows) (p : String) :
    ∃ s', (do
        assign "d" (.text p)
        runSteps fs [.test (d.arguments how (.variable "d")) none]).run s = (.ok ⟨⟩, s') ∧
      s.Declares [d.fields p] s' := by
  -- the variable is no name of an expectation, so these stay bound
  let bound : ScriptState := { s with vars := s.vars.set "d" (.text p) }
  have still : bound.vars.Knows := knows.set (fun o => by cases o <;> decide) (.text p)
  have located : (Expr.variable "d").eval bound.vars = .ok (.text p) := by
    simp [Expr.eval, bound, Bindings.get?_set]
  obtain ⟨s', run, declared⟩ := run_test proper fs how still located
  have assigned : (assign "d" (.text p)).run s = (.ok ⟨⟩, bound) := rfl
  refine ⟨s', ?_, declared.tests, declared.next, declared.knows⟩
  simp only [run_bind, assigned, runSteps, run, run_pure]

omit proper in
theorem run_forM {body : String → ScriptM PUnit}
    (each : ∀ p s, s.vars.Knows → ∃ s', (body p).run s = (.ok ⟨⟩, s') ∧
      s.Declares [d.fields p] s') (paths : List String) (knows : s.vars.Knows) :
    ∃ s', (paths.forM body).run s = (.ok ⟨⟩, s') ∧ s.Declares (paths.map d.fields) s' := by
  induction paths generalizing s with
  | nil => exact ⟨s, rfl, .refl knows⟩
  | cons p paths ih =>
    obtain ⟨middle, here, declared⟩ := each p s knows
    obtain ⟨s', others, more⟩ := ih declared.knows
    refine ⟨s', ?_, declared.trans more⟩
    rw [run_forM_cons, run_bind, here]
    exact others

omit proper in
theorem run_expand (fs : FileSystem) (root : String) (body : List Step) (s : ScriptState) :
    (runStep fs (.expand { path := .value (.text root) } "d" body)).run s =
      match fs.leaves root with
      | .error failure => (.error (.failure failure), s)
      | .ok leaves => (leaves.forM fun p => do
          assign "d" (.text p)
          runSteps fs body).run s := by
  let call : Call := { path := .text root, options := none, named := [] }
  have called : (evalCall .expand { path := .value (.text root) }).run s = (.ok call, s) := rfl
  have search : loopDirectories fs call = (fs.leaves root).mapError Stop.failure := rfl
  simp only [runStep, run_bind, called, search]
  cases fs.leaves root with
  | error failure => rfl
  | ok leaves => rfl

omit proper in
theorem run_step_failed {failure : Failure} (failed : d.place.paths fs = .error failure) :
    (runStep fs (d.step how)).run s = (.error (.failure failure), s) := by
  cases place : d.place with
  | single path =>
    rw [place] at failed
    cases failed
  | below root =>
    rw [place] at failed
    have searched : fs.leaves root = .error failure := failed
    simp only [step, place, run_expand, searched]

theorem run_step (how : Spelling) {paths : List String} (found : d.place.paths fs = .ok paths)
    (knows : s.vars.Knows) :
    ∃ s', (runStep fs (d.step how)).run s = (.ok ⟨⟩, s') ∧ s.Declares (paths.map d.fields) s' := by
  cases place : d.place with
  | single path =>
    rw [place] at found
    cases found
    simp only [step, place]
    exact run_test proper fs how knows rfl
  | below root =>
    rw [place] at found
    have searched : fs.leaves root = .ok paths := found
    simp only [step, place, run_expand, searched]
    exact run_forM (fun p s knows => run_iteration proper how knows p) paths knows

omit proper in
theorem run_steps (fs : FileSystem) {ds : List Declaration}
    (proper : ∀ d ∈ ds, d.expected.isExpectation = true) (how : Declaration → Spelling)
    (knows : s.vars.Knows) :
    ∃ s', (runSteps fs (ds.map fun d => d.step (how d))).run s =
        ((match (meaning fs ds).2 with
          | none => .ok ⟨⟩
          | some failure => .error (.failure failure)), s') ∧
      s.Declares (meaning fs ds).1 s' := by
  induction ds generalizing s with
  | nil => exact ⟨s, rfl, .refl knows⟩
  | cons d ds ih =>
    obtain ⟨first, rest⟩ := List.forall_mem_cons.mp proper
    simp only [List.map_cons, runSteps, run_bind, meaning]
    cases search : d.place.paths fs with
    | error failure =>
      rw [run_step_failed search]
      exact ⟨s, rfl, .refl knows⟩
    | ok paths =>
      obtain ⟨middle, here, declared⟩ := run_step first (how d) search knows
      obtain ⟨s', others, more⟩ := ih rest declared.knows
      rw [here]
      exact ⟨s', others, declared.trans more⟩

end Declaration

/-- Declarations that lines can make come to the same tests, next id and failure as lines of a file
and as a script: to those that they mean. A failure is one of a search. -/
theorem script_agrees_with_lines (fs : FileSystem) {ds : List Declaration}
    (proper : ∀ d ∈ ds, d.Proper fs) (how : Declaration → Spelling) (source : Option String)
    (file : String) (next : Int) (symbols : Symbols) :
    let text := FileReading.run fs source next symbols (ds.map Declaration.line)
    let script := Script.run fs file next (ds.map fun d => d.step (how d))
    let meant := Declaration.meaning fs ds
    (script.tests = text.tests ∧ script.next = text.next ∧
      script.stop = text.failure.map Stop.failure) ∧
    (text.tests = Test.numbered next meant.1 ∧ text.next = next + meant.1.length ∧
      text.failure = meant.2 ∧ ∀ failure, meant.2 = some failure → failure.FromSearch) := by
  intro text script meant
  have read := Declaration.runFrom_lines proper source 1 1 next symbols
  have knows : ({ next, vars := initialVariables file } : ScriptState).vars.Knows :=
    Variables.knows_initial file
  obtain ⟨s', run, declared⟩ :=
    Declaration.run_steps fs (fun d mem => (proper d mem).expected) how knows
  have ran : script = ⟨meant.2.map Stop.failure, s'.next, s'.tests, s'.skipped⟩ := by
    simp only [script, meant, Script.run, run]
    cases (Declaration.meaning fs ds).2 <;> rfl
  have told : text =
      ⟨Test.numbered next meant.1, next + meant.1.length, symbols, meant.2⟩ := read
  rw [ran, told]
  refine ⟨⟨?_, declared.next, rfl⟩, rfl, rfl, rfl, fun failure => Declaration.meaning_failure⟩
  rw [declared.tests, List.nil_append]

/-- A path, a root with a leaf below it, and a root that is absent. -/
theorem script_agrees_with_lines_up_to_absent :
    let fs := ({ directories := ["r", "r/a"] } : PathTable).fileSystem
    let ds : List Declaration :=
      [⟨.single "p q", "x", .pass, "c"⟩, ⟨.below "r", "", .xfail, ""⟩, ⟨.below "s", "", .pass, ""⟩]
    let how (d : Declaration) : Spelling := if d.expected = .pass then .constant else .word
    (∀ d ∈ ds, d.Proper fs) ∧
      (let text := FileReading.run fs (some "f") 4 {} (ds.map Declaration.line)
      let script := Script.run fs "g" 4 (ds.map fun d => d.step (how d))
      let meant := Declaration.meaning fs ds
      (script.tests = text.tests ∧ script.next = text.next ∧
        script.stop = text.failure.map Stop.failure) ∧
      (text.tests = Test.numbered 4 meant.1 ∧ text.next = 4 + meant.1.length ∧
        text.failure = meant.2 ∧ ∀ failure, meant.2 = some failure → failure.FromSearch)) := by
  intro fs ds how
  have scan : fs.leaves "r" = .ok ["r/a"] := by decide +kernel
  have absent : fs.leaves "s" = .error (.notDirectory "s") := by decide +kernel
  have single : (Place.single "p q").Proper fs := by
    refine .single (by decide) ?_ ?_ (by decide)
    · unfold FitsLine
      decide
    · unfold NoCommand
      decide
  have visible :
      Text.isBlank 'c' = false ∧ Text.isBlank 'r' = false ∧ Text.isBlank 's' = false := by
    decide
  have below : (Place.below "r").Proper fs := by
    refine .below (by decide) (by simp [visible]) fun leaves scanned => ?_
    rw [scan] at scanned
    cases scanned
    unfold FitsLine
    decide
  have nowhere : (Place.below "s").Proper fs := by
    refine .below (by decide) (by simp [visible]) fun leaves scanned => ?_
    rw [absent] at scanned
    cases scanned
  have proper : ∀ d ∈ ds, d.Proper fs := by
    simp only [ds, List.forall_mem_cons, List.not_mem_nil, false_imp_iff, implies_true, and_true]
    exact ⟨⟨single, by decide, rfl, by decide, by simp [visible]⟩,
      ⟨below, by decide, rfl, by decide, by simp⟩, ⟨nowhere, by decide, rfl, by decide, by simp⟩⟩
  exact ⟨proper, script_agrees_with_lines fs proper how (some "f") "g" 4 {}⟩

end TestBench
