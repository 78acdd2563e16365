import TestBench.Proofs.Except
import TestBench.Proofs.Suite.Drawn
import TestBench.Script.Run

/-! Scripts only add to what they have declared. An activity that ends early leaves a state too, so
the growth of a state is a property of the activity in every state, whatever its result. -/
namespace TestBench

theorem isExpectation_of_check {o p : Outcome} (h : o.checkExpectation = .ok p) :
    p.isExpectation = true := by
  unfold Outcome.checkExpectation at h
  split at h
  · rename_i proper
    cases h
    exact proper
  · cases h

theorem isExpectation_of_value {v : Value} {o : Outcome} (h : v.toExpectation = .ok o) :
    o.isExpectation = true := by
  unfold Value.toExpectation at h
  split at h
  · exact isExpectation_of_check h
  · split at h
    · cases h
    · split at h
      · exact isExpectation_of_check h
      · cases h

theorem isExpectation_of_options {options : List (Value × Value)} {args comment : String}
    {o : Outcome} (said : testOptions options = .ok (args, o, comment)) :
    o.isExpectation = true := by
  simp only [testOptions, bind_eq_ok_iff] at said
  obtain ⟨_, -, wanted, expectation, _, -, same⟩ := said
  cases same
  exact isExpectation_of_value expectation

/-- The second state has the tests of the first, and then tests with ids that were taken since. -/
def ScriptState.Grows (s s' : ScriptState) : Prop :=
  ∃ new, s'.tests = s.tests ++ new ∧ Test.Drawn s.next s'.next new

namespace ScriptState.Grows

theorem refl (s : ScriptState) : s.Grows s :=
  ⟨[], by simp, .nil (Int.le_refl _)⟩

theorem trans {s s' s'' : ScriptState} (h : s.Grows s') (h' : s'.Grows s'') : s.Grows s'' := by
  obtain ⟨new, tests, drawn⟩ := h
  obtain ⟨new', tests', drawn'⟩ := h'
  exact ⟨new ++ new', by rw [tests', tests, List.append_assoc], drawn.append drawn'⟩

end ScriptState.Grows

namespace ScriptM

variable {α β : Type}

/-- The activity lets every state grow, whether or not it ends early. -/
def Grows (x : ScriptM α) : Prop :=
  ∀ s : ScriptState, s.Grows (x.run s).2

theorem run_bind (x : ScriptM α) (f : α → ScriptM β) (s : ScriptState) :
    (x >>= f).run s =
      match x.run s with
      | (.ok a, s') => (f a).run s'
      | (.error e, s') => (.error e, s') := by
  simp only [ExceptT.run, bind, ExceptT.bind, ExceptT.mk, StateT.bind]
  rcases x s with ⟨result, s'⟩
  cases result <;> rfl

theorem run_tryCatch (x : ScriptM α) (handle : Stop → ScriptM α) (s : ScriptState) :
    (tryCatch x handle).run s =
      match x.run s with
      | (.ok a, s') => (.ok a, s')
      | (.error e, s') => (handle e).run s' := by
  simp only [ExceptT.run, tryCatch, tryCatchThe, MonadExceptOf.tryCatch, ExceptT.tryCatch,
    ExceptT.mk, bind, StateT.bind]
  rcases x s with ⟨result, s'⟩
  cases result <;> rfl

theorem grows_pure (a : α) : (pure a : ScriptM α).Grows :=
  fun s => .refl s

theorem grows_throw (e : Stop) : (throw e : ScriptM α).Grows :=
  fun s => .refl s

theorem grows_ofExcept {ε : Type} (toStop : ε → Stop) (r : Except ε α) :
    (ofExcept toStop r).Grows := by
  cases r with
  | ok a => exact grows_pure a
  | error e => exact grows_throw _

theorem grows_get : (get : ScriptM ScriptState).Grows :=
  fun s => .refl s

theorem grows_modify {f : ScriptState → ScriptState} (tests : ∀ s, (f s).tests = s.tests)
    (next : ∀ s, (f s).next = s.next) : (modify f : ScriptM PUnit).Grows :=
  fun s => ⟨[], by rw [List.append_nil]; exact tests s,
    .nil (Int.le_of_eq (next s).symm)⟩

theorem grows_bind {x : ScriptM α} {f : α → ScriptM β} (first : x.Grows)
    (rest : ∀ a, (f a).Grows) : (x >>= f).Grows := by
  intro s
  have grown := first s
  rw [run_bind]
  rcases run : x.run s with ⟨result, s'⟩
  rw [run] at grown
  cases result with
  | ok a => exact grown.trans (rest a s')
  | error e => exact grown

theorem grows_tryCatch {x : ScriptM α} {handle : Stop → ScriptM α} (body : x.Grows)
    (rest : ∀ e, (handle e).Grows) : (tryCatch x handle).Grows := by
  intro s
  have grown := body s
  rw [run_tryCatch]
  rcases run : x.run s with ⟨result, s'⟩
  rw [run] at grown
  cases result with
  | ok a => exact grown
  | error e => exact grown.trans (rest e s')

theorem grows_forM {f : β → ScriptM PUnit} (each : ∀ b, (f b).Grows) (bs : List β) :
    (bs.forM f).Grows := by
  induction bs with
  | nil => exact grows_pure _
  | cons b bs ih => exact grows_bind (each b) fun _ => ih

end ScriptM

open ScriptM

theorem grows_assign (name : String) (v : Value) : (assign name v).Grows :=
  grows_modify (fun _ => rfl) fun _ => rfl

theorem grows_holdBack (e : Stop) : (holdBack e).Grows := by
  cases e with
  | escape kind v => exact grows_throw _
  | fault f => exact grows_pure _
  | failure f => exact grows_pure _

theorem grows_evalCall (p : Primitive) (a : Arguments) : (evalCall p a).Grows :=
  grows_bind grows_get fun _ => grows_ofExcept _ _

theorem grows_declareTest (call : Call) : (declareTest call).Grows := by
  refine grows_bind (grows_ofExcept _ _) fun (options, path, suffixes) =>
    grows_bind (grows_ofExcept _ _) fun skipped => ?_
  split
  · exact grows_bind (grows_modify (fun _ => rfl) fun _ => rfl) fun _ => grows_pure _
  · intro s
    -- the id is taken first; the rest runs in the state after that
    change s.Grows ((ofExcept id (testOptions options) >>= _).run { s with next := s.next + 1 }).2
    rw [run_bind]
    cases said : testOptions options with
    | error e => exact ⟨[], (List.append_nil _).symm, .nil (Int.le_add_one (Int.le_refl _))⟩
    | ok parts =>
      obtain ⟨args, o, comment⟩ := parts
      exact ⟨[_], rfl, .singleton rfl (isExpectation_of_options said) rfl⟩

/-! Along the shape of the script. Of the steps, only a declaration touches tests and ids by itself. -/

mutual

theorem grows_runStep (fs : FileSystem) : ∀ step, (runStep fs step).Grows
  | .test arguments into =>
    grows_bind (grows_evalCall _ _) fun _ => grows_bind (grows_declareTest _) fun _ => by
      cases into with
      | none => exact grows_pure _
      | some name => exact grows_assign _ _
  | .expand arguments loopVariable body =>
    grows_bind (grows_evalCall _ _) fun _ => grows_bind (grows_ofExcept _ _) fun _ =>
      grows_forM (fun _ => grows_bind (grows_assign _ _) fun _ => grows_runSteps fs body) _
  | .expandOnly arguments => grows_bind (grows_evalCall _ _) fun _ => grows_pure _
  | .assign name e =>
    grows_bind grows_get fun _ => grows_bind (grows_ofExcept _ _) fun _ => grows_assign _ _
  | .fail kind message =>
    grows_bind grows_get fun _ => grows_bind (grows_ofExcept _ _) fun _ => grows_throw _
  | .attempt body => grows_tryCatch (grows_runSteps fs body) grows_holdBack

theorem grows_runSteps (fs : FileSystem) : ∀ steps, (runSteps fs steps).Grows
  | [] => grows_pure _
  | step :: steps => grows_bind (grows_runStep fs step) fun _ => grows_runSteps fs steps

end

/-- A script leaves tests with ids that it took, however it ends. -/
theorem drawn_script (fs : FileSystem) (file : String) (next : Int) (script : Script) :
    Test.Drawn next (script.run fs file next).next (script.run fs file next).tests := by
  obtain ⟨new, tests, drawn⟩ := grows_runSteps fs script { next, vars := initialVariables file }
  have collected : (script.run fs file next).tests = new := tests
  rw [collected]
  exact drawn

end TestBench
