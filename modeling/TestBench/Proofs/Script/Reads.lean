import TestBench.Proofs.Script.Visits

/-! The variables that an evaluation looks up. It looks up nothing after the part that fails; on
variables that agree on what it looks up it comes to the same value or failure. -/
namespace TestBench

/-- What is looked up after a part, if the part has a value. -/
def onward {ε α : Type} (part : Except ε α) (rest : List String) : List String :=
  match part with
  | .ok _ => rest
  | .error _ => []

def Variables.AgreeOn (names : List String) (vars vars' : Variables) : Prop :=
  ∀ name ∈ names, vars'.get? name = vars.get? name

theorem Variables.agreeOn_append {names more : List String} {vars vars' : Variables} :
    AgreeOn (names ++ more) vars vars' ↔ AgreeOn names vars vars' ∧ AgreeOn more vars vars' :=
  List.forall_mem_append

namespace Expr

mutual

def reads (vars : Variables) : Expr → List String
  | .value _ => []
  | .variable name => [name]
  | .sum parts => readsList vars parts
  | .list items => readsList vars items
  | .mapping entries => readsEntries vars entries

def readsList (vars : Variables) : List Expr → List String
  | [] => []
  | e :: es => reads vars e ++ onward (eval vars e) (readsList vars es)

def readsEntries (vars : Variables) : List (String × Expr) → List String
  | [] => []
  | (_, e) :: rest => reads vars e ++ onward (eval vars e) (readsEntries vars rest)

end

open Variables in
mutual

theorem eval_of_agree {vars vars' : Variables} :
    ∀ e : Expr, AgreeOn (e.reads vars) vars vars' → e.eval vars' = e.eval vars
  | .value _, _ => rfl
  | .variable name, agree => by
    rw [eval, eval, agree name (by simp [reads])]
  | .sum parts, agree => by
    rw [eval, eval, evalList_of_agree parts agree]
  | .list items, agree => by
    rw [eval, eval, evalList_of_agree items agree]
  | .mapping entries, agree => by
    rw [eval, eval, evalEntries_of_agree entries agree]

theorem evalList_of_agree {vars vars' : Variables} :
    ∀ es : List Expr, AgreeOn (readsList vars es) vars vars' →
      evalList vars' es = evalList vars es
  | [], _ => rfl
  | e :: es, agree => by
    rw [readsList, agreeOn_append] at agree
    rw [evalList, evalList, eval_of_agree e agree.1]
    cases first : eval vars e with
    | error f => rfl
    | ok v =>
      rw [first] at agree
      rw [evalList_of_agree es agree.2]

theorem evalEntries_of_agree {vars vars' : Variables} :
    ∀ entries : List (String × Expr), AgreeOn (readsEntries vars entries) vars vars' →
      evalEntries vars' entries = evalEntries vars entries
  | [], _ => rfl
  | (name, e) :: rest, agree => by
    rw [readsEntries, agreeOn_append] at agree
    rw [evalEntries, evalEntries, eval_of_agree e agree.1]
    cases first : eval vars e with
    | error f => rfl
    | ok v =>
      rw [first] at agree
      rw [evalEntries_of_agree rest agree.2]

end

end Expr

def Arguments.reads (vars : Variables) (a : Arguments) : List String :=
  a.path.reads vars ++ onward (a.path.eval vars)
    (match a.options with
      | none => Expr.readsEntries vars a.named
      | some e => e.reads vars ++ onward (e.eval vars) (Expr.readsEntries vars a.named))

theorem Call.ofArguments_of_agree {vars vars' : Variables} {a : Arguments}
    (agree : Variables.AgreeOn (a.reads vars) vars vars') :
    Call.ofArguments vars' a = Call.ofArguments vars a := by
  rw [Arguments.reads, Variables.agreeOn_append] at agree
  obtain ⟨path, rest⟩ := agree
  simp only [Call.ofArguments, Expr.eval_of_agree a.path path]
  cases found : a.path.eval vars with
  | error f => rfl
  | ok p =>
    rw [found] at rest
    cases given : a.options with
    | none =>
      rw [given] at rest
      rw [Expr.evalEntries_of_agree a.named rest]
    | some e =>
      rw [given] at rest
      obtain ⟨options, named⟩ := Variables.agreeOn_append.mp rest
      simp only [Expr.eval_of_agree e options]
      cases evaluated : e.eval vars with
      | error f => rfl
      | ok v =>
        rw [evaluated] at named
        rw [Expr.evalEntries_of_agree a.named named]

/-- The variables that a step looks up by itself, not in its body. -/
def Step.reads (vars : Variables) : Step → List String
  | .test arguments _ => arguments.reads vars
  | .expand arguments _ _ => arguments.reads vars
  | .expandOnly arguments => arguments.reads vars
  | .assign _ e => e.reads vars
  | .fail _ e => e.reads vars
  | .attempt _ => []

/-- The step looks up a variable that holds a test, which only a declaration can have put there. -/
def Visit.UsesTest (v : Visit) : Prop :=
  ∃ name ∈ v.step.reads v.state.vars, ∃ t, v.state.vars.get? name = some (.test t)

/-- A script that, known by a file name and wherever its ids begin, never uses a test that it has
declared. -/
def Script.DiscardsTests (fs : FileSystem) (file : String) (script : Script) : Prop :=
  ∀ next, ∀ v ∈ script.visits fs file next, ¬ v.UsesTest

end TestBench
