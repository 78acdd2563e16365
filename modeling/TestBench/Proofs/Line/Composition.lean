import Mathlib
import TestBench.Proofs.Line.Pipeline

/-! Flattening one list of lines behind another. What a line contributes does not depend on where it
stands; only a failure tells its line. So the lines behind others give what they give alone, from
the symbols that the others leave, with failures counted on, and nothing if the others fail. -/
namespace TestBench

/-- The origin `k` lines further on. -/
def Origin.later (k : Nat) (o : Origin) : Origin :=
  { o with line := o.line.map (· + (k : Int)) }

/-- The failure with its line, where it has one, `k` lines further on. -/
def Failure.later (k : Nat) : Failure → Failure
  | .malformedLine reason line origin => .malformedLine reason line (origin.later k)
  | .invalidExpectation expected line origin => .invalidExpectation expected line (origin.later k)
  | .unknownCommand command origin => .unknownCommand command (origin.later k)
  | f => f

namespace Line

variable {fs : FileSystem} {origin : Origin} {l : Line}

theorem Rejected.later {e : Failure} (rejected : Rejected fs origin l e) (k : Nat) :
    Rejected fs (origin.later k) l (e.later k) := by
  cases rejected with
  | malformed text => exact .malformed text
  | expectation text expected => exact .expectation text expected
  | command other => exact .command other
  | root failed discovery =>
    have unlined : e.later k = e := by
      obtain rfl | ⟨path, reason, rfl⟩ := discovery <;> rfl
    rw [unlined]
    exact .root failed discovery

/-- What a line contributes does not depend on where it stands, but its failure tells the line. -/
theorem contribution_later (k : Nat) :
    l.contribution fs (origin.later k) =
      (l.contribution fs origin).mapError (Failure.later k) := by
  cases here : l.contribution fs origin with
  | error e => exact contribution_eq_error_iff.mpr ((contribution_eq_error_iff.mp here).later k)
  | ok c =>
    unfold contribution at here ⊢
    split at here <;> first | exact here | cases here

end Line

namespace Flattening

def later (k : Nat) (r : Flattening) : Flattening :=
  { r with failure := r.failure.map (Failure.later k) }

/-- What comes of lines if others, flattened from the symbols that these leave, come behind them. -/
def andThen (first : Flattening) (rest : Symbols → Flattening) : Flattening :=
  match first.failure with
  | some _ => first
  | none => { rest first.symbols with lines := first.lines ++ (rest first.symbols).lines }

section Parts

variable {first : Flattening} {rest : Symbols → Flattening}

theorem andThen_of_failure {e : Failure} (failed : first.failure = some e) :
    first.andThen rest = first := by
  simp only [andThen, failed]

theorem andThen_of_whole (whole : first.failure = none) :
    first.andThen rest =
      ⟨first.lines ++ (rest first.symbols).lines, (rest first.symbols).symbols,
        (rest first.symbols).failure⟩ := by
  simp only [andThen, whole]

theorem andThen_assoc (first : Flattening) (second third : Symbols → Flattening) :
    (first.andThen second).andThen third =
      first.andThen fun symbols => (second symbols).andThen third := by
  cases ended : first.failure with
  | some e => rw [andThen_of_failure ended, andThen_of_failure ended, andThen_of_failure ended]
  | none =>
    rw [andThen_of_whole ended, andThen_of_whole ended]
    cases ended' : (second first.symbols).failure with
    | some e => rw [andThen_of_failure rfl, andThen_of_failure ended', ended']
    | none => rw [andThen_of_whole rfl, andThen_of_whole ended', List.append_assoc]

theorem later_andThen (k : Nat) (first : Flattening) (rest : Symbols → Flattening) :
    (first.andThen rest).later k = (first.later k).andThen fun s => (rest s).later k := by
  cases ended : first.failure with
  | some e =>
    have failed : (first.later k).failure = some (e.later k) := by rw [later, ended]; rfl
    rw [andThen_of_failure ended, andThen_of_failure failed]
  | none =>
    have whole : (first.later k).failure = none := by rw [later, ended]; rfl
    rw [andThen_of_whole ended, andThen_of_whole whole]
    rfl

end Parts

/-- What comes of one line that contributes this. -/
def ofContribution (symbols : Symbols) : Except Failure Contribution → Flattening
  | .error e => ⟨[], symbols, some e⟩
  | .ok (.symbol name value) => ⟨[], symbols.set name value, none⟩
  | .ok (.lines flat) => ⟨flat, symbols, none⟩

theorem ofContribution_later (symbols : Symbols) (c : Except Failure Contribution) (k : Nat) :
    ofContribution symbols (c.mapError (Failure.later k)) = (ofContribution symbols c).later k := by
  obtain e | (flat | ⟨name, value⟩) := c <;> rfl

variable (fs : FileSystem) (source : Option String)

def ofLine (n : Nat) (symbols : Symbols) (line : String) : Flattening :=
  ofContribution symbols ((Line.ofText line).contribution fs ⟨source, some n⟩)

theorem ofLine_later (n k : Nat) (symbols : Symbols) (line : String) :
    ofLine fs source (n + k) symbols line = (ofLine fs source n symbols line).later k := by
  have further : (⟨source, some (n + k : Nat)⟩ : Origin) = Origin.later k ⟨source, some n⟩ := by
    simp [Origin.later]
  rw [ofLine, ofLine, further, Line.contribution_later, ofContribution_later]

theorem runFrom_cons (n : Nat) (symbols : Symbols) (line : String) (lines : List String) :
    runFrom fs source n symbols (line :: lines) =
      (ofLine fs source n symbols line).andThen fun s => runFrom fs source (n + 1) s lines := by
  rw [runFrom, ofLine]
  obtain e | (flat | ⟨name, value⟩) := (Line.ofText line).contribution fs ⟨source, some n⟩ <;> rfl

theorem ofLine_of_failure {n : Nat} {symbols : Symbols} {line : String} {e : Failure}
    (failed : (runFrom fs source n symbols [line]).failure = some e) :
    ofLine fs source n symbols line = ⟨[], symbols, some e⟩ := by
  rw [runFrom_cons] at failed
  unfold ofLine at failed ⊢
  generalize (Line.ofText line).contribution fs ⟨source, some n⟩ = c at failed ⊢
  obtain e' | (flat | ⟨name, value⟩) := c <;> cases failed
  rfl

theorem runFrom_later (n k : Nat) (symbols : Symbols) (lines : List String) :
    runFrom fs source (n + k) symbols lines = (runFrom fs source n symbols lines).later k := by
  induction lines generalizing n symbols with
  | nil => rfl
  | cons line lines ih =>
    have next : n + k + 1 = n + 1 + k := by omega
    simp only [runFrom_cons, later_andThen, ofLine_later, next, ih]

theorem runFrom_append (n : Nat) (symbols : Symbols) (before after : List String) :
    runFrom fs source n symbols (before ++ after) =
      (runFrom fs source n symbols before).andThen fun s =>
        runFrom fs source (n + before.length) s after := by
  induction before generalizing n symbols with
  | nil => rfl
  | cons line before ih =>
    have next : n + 1 + before.length = n + (line :: before).length := by
      rw [List.length_cons]
      omega
    simp only [List.cons_append, runFrom_cons, andThen_assoc, ih, next]

theorem run_append (symbols : Symbols) (before after : List String) :
    run fs source symbols (before ++ after) =
      (run fs source symbols before).andThen fun s =>
        (run fs source s after).later before.length := by
  simp only [run, runFrom_append, runFrom_later]

/-- Lines behind others give the flat lines and the failure that they give alone, from the symbols
the others leave, with the line of the failure counted on; lines behind a failure give nothing. A
line with a command that fails gives no flat line, wherever it stands. -/
theorem run_in_parts (fs : FileSystem) (source : Option String) (symbols : Symbols)
    (before after : List String) :
    let first := run fs source symbols before
    let rest := run fs source first.symbols after
    (first.failure = none →
      run fs source symbols (before ++ after) =
        ⟨first.lines ++ rest.lines, rest.symbols,
          rest.failure.map (Failure.later before.length)⟩) ∧
    (∀ e, first.failure = some e → run fs source symbols (before ++ after) = first) ∧
    ∀ line stem command others e, first.failure = none →
      Line.ofText line = .expansion stem command others →
      (run fs source first.symbols [line]).failure = some e →
      run fs source symbols (before ++ line :: after) =
        ⟨first.lines, first.symbols, some (e.later before.length)⟩ := by
  intro first rest
  refine ⟨?_, ?_, ?_⟩
  · intro whole
    rw [run_append, andThen_of_whole whole]
    rfl
  · intro e failed
    rw [run_append, andThen_of_failure failed]
  · intro line stem command others e whole kind failed
    have alone : ofLine fs source 1 first.symbols line = ⟨[], first.symbols, some e⟩ :=
      ofLine_of_failure fs source failed
    rw [run_append, andThen_of_whole whole, run, runFrom_cons, alone, andThen_of_failure rfl]
    simp [later, first]

/-- A bad line behind two good ones, a bad line in front of any lines, and a command that fails in a
directory behind one that is a leaf. -/
theorem run_in_parts_at_three_failures :
    let table : PathTable := { directories := ["r", "r/a", "r/b"], broken := [("r/b", "no")] }
    let good := ["!x=1", "p|q|PASS "]
    let bad := Failure.badLine "bad"
    Line.ofText "$(expand r)|y|PASS" = .expansion "" ["expand", "r"] "y|PASS" ∧
      table.fileSystem.leaves "r/a" = .ok ["r/a"] ∧
      run table.fileSystem (some "f") {} good = ⟨["p|q|PASS"], ⟨[("x", "1")]⟩, none⟩ ∧
      run table.fileSystem (some "f") {} (good ++ ["#", "bad"]) =
        ⟨["p|q|PASS"], ⟨[("x", "1")]⟩, some (bad ⟨some "f", some 4⟩)⟩ ∧
      ∀ after,
        run table.fileSystem (some "f") {} (["bad"] ++ after) =
          ⟨[], {}, some (bad ⟨some "f", some 1⟩)⟩ ∧
        run table.fileSystem (some "f") {} (good ++ "$(expand r)|y|PASS" :: after) =
          ⟨["p|q|PASS"], ⟨[("x", "1")]⟩, some (.unlistable "r/b" "no")⟩ := by
  intro table good bad
  have command : Line.ofText "$(expand r)|y|PASS" = .expansion "" ["expand", "r"] "y|PASS" := by
    decide +kernel
  have leaf : table.fileSystem.leaves "r/a" = .ok ["r/a"] := by decide +kernel
  have whole : run table.fileSystem (some "f") {} good =
      ⟨["p|q|PASS"], ⟨[("x", "1")]⟩, none⟩ := by decide +kernel
  have behind : run table.fileSystem (some "f") ⟨[("x", "1")]⟩ ["#", "bad"] =
      ⟨[], ⟨[("x", "1")]⟩, some (bad ⟨some "f", some 2⟩)⟩ := by decide +kernel
  have failed : run table.fileSystem (some "f") {} ["bad"] =
      ⟨[], {}, some (bad ⟨some "f", some 1⟩)⟩ := by decide +kernel
  have scanned : table.fileSystem.leaves ("" ++ "r") = .error (.unlistable "r/b" "no") := by
    have top : table.fileSystem.subdirectories "r" = .ok ["r/a", "r/b"] := by cbv
    have below : table.fileSystem.leavesBelow "r/b" = .error (.unlistable "r/b" "no") :=
      FileSystem.leavesBelow_fails (by cbv)
    have first : table.fileSystem.leavesBelow "r/a" = .ok ["r/a"] :=
      FileSystem.leavesBelow_leaf (by cbv)
    rw [String.empty_append, FileSystem.leaves, if_pos (by decide +kernel),
      FileSystem.leavesBelow_node top]
    simp only [List.mapM_cons, first, below]
    rfl
  have unlistable :
      (run table.fileSystem (some "f") ⟨[("x", "1")]⟩ ["$(expand r)|y|PASS"]).failure =
        some (.unlistable "r/b" "no") := by
    simp only [run, runFrom, command, Line.contribution, scanned, Except.map]
  have goes_on := (run_in_parts table.fileSystem (some "f") {} good ["#", "bad"]).1
  rw [whole, behind] at goes_on
  refine ⟨command, leaf, whole, goes_on rfl, ?_⟩
  intro after
  have stops := (run_in_parts table.fileSystem (some "f") {} ["bad"] after).2.1
  have gives_none := (run_in_parts table.fileSystem (some "f") {} good after).2.2
  rw [failed] at stops
  rw [whole] at gives_none
  exact ⟨stops _ rfl, gives_none _ _ _ _ _ rfl command unlistable⟩

end Flattening

end TestBench
