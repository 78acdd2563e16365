import TestBench.Value.Basic

/-! A script declares tests by calls of two primitives, `test` and `expand`, from within
assignments, loops over directories, and blocks that swallow errors. -/
namespace TestBench

inductive Expr where
  | value (v : Value)
  | variable (name : String)
  | sum (parts : List Expr)
  | list (items : List Expr)
  | mapping (entries : List (String × Expr))
  deriving Inhabited

/-- The arguments of a call of a primitive: a path, a mapping of options if it is passed, and
options by name. -/
structure Arguments where
  path : Expr
  options : Option Expr := none
  named : List (String × Expr) := []
  deriving Inhabited

inductive Step where
  /-- Declares a test; the test, or nothing if it was skipped, is assigned to `into`. -/
  | test (arguments : Arguments) (into : Option String)
  | expand (arguments : Arguments) (loopVariable : String) (body : List Step)
  /-- Asks for leaf directories and takes none, so that no search happens. -/
  | expandOnly (arguments : Arguments)
  | assign (name : String) (value : Expr)
  | fail (kind : String) (message : Expr)
  /-- Runs the body and goes on after an error in it. -/
  | attempt (body : List Step)
  deriving Inhabited

abbrev Script := List Step

end TestBench
