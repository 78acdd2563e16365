import TestBench.Proofs.Script.Agreement

/-! The steps that a run of a script comes to, in order, each with the state it is run in. These
are the states of the run itself; steps that an error keeps it from are not among them. -/
namespace TestBench

/-- A step that a run comes to, and the state in which it does. -/
structure Visit where
  step : Step
  state : ScriptState

/-- What follows an activity unless it ends early. -/
def ScriptM.after {α β : Type} (x : ScriptM α) (s : ScriptState)
    (rest : α → ScriptState → List β) : List β :=
  match x.run s with
  | (.ok a, s') => rest a s'
  | (.error _, _) => []

def enterLoop (fs : FileSystem) (arguments : Arguments) : ScriptM (List String) := do
  let call ← evalCall .expand arguments
  ScriptM.ofExcept id (loopDirectories fs call)

def round (loopVariable : String) (body : ScriptM Unit) (d : String) : ScriptM Unit := do
  assign loopVariable (.text d)
  body

theorem run_round (loopVariable : String) (body : ScriptM Unit) (d : String) (s : ScriptState) :
    (round loopVariable body d).run s =
      body.run { s with vars := s.vars.set loopVariable (.text d) } := rfl

theorem runStep_expand (fs : FileSystem) (arguments : Arguments) (loopVariable : String)
    (body : List Step) :
    runStep fs (.expand arguments loopVariable body) =
      enterLoop fs arguments >>= fun ds => ds.forM (round loopVariable (runSteps fs body)) := by
  simp only [runStep, enterLoop, bind_assoc]
  rfl

/-- The visits of the rounds of a loop, from those of its body. -/
def roundVisits (loopVariable : String) (body : ScriptM Unit)
    (visits : ScriptState → List Visit) : List String → ScriptState → List Visit
  | [], _ => []
  | d :: ds, s =>
    visits { s with vars := s.vars.set loopVariable (.text d) } ++
      (round loopVariable body d).after s fun _ => roundVisits loopVariable body visits ds

mutual

def stepVisits (fs : FileSystem) : Step → ScriptState → List Visit
  | .expand arguments loopVariable body, s =>
    ⟨.expand arguments loopVariable body, s⟩ :: (enterLoop fs arguments).after s
      (roundVisits loopVariable (runSteps fs body) (stepsVisits fs body))
  | .attempt body, s => ⟨.attempt body, s⟩ :: stepsVisits fs body s
  | step, s => [⟨step, s⟩]

def stepsVisits (fs : FileSystem) : List Step → ScriptState → List Visit
  | [], _ => []
  | step :: steps, s =>
    stepVisits fs step s ++ (runStep fs step).after s fun _ => stepsVisits fs steps

end

namespace Script

def start (file : String) (next : Int) : ScriptState :=
  { next, vars := initialVariables file }

/-- The visits of a script that is known by a file name and whose first test gets the id `next`. -/
def visits (fs : FileSystem) (file : String) (next : Int) (script : Script) : List Visit :=
  stepsVisits fs script (start file next)

end Script

end TestBench
