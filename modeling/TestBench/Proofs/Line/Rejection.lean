import TestBench.Proofs.Line.Expansion
import TestBench.Proofs.Line.Grammar

/-! Malformed lines that are read without being flattened first. Reading knows the fields of a test
line, but neither definitions nor commands: a line is refused for the form of its fields or for its
expectation and for nothing else. So a leaf whose path looks like a definition or a command is still
read as a test. -/
namespace TestBench

namespace Reading

/-- What reading makes of a malformed line, whether or not the expectation is at fault. -/
inductive OfMalformed (next : Int) (origin : Origin) (cs : List Char) :
    Option String → Reading → Prop where
  | expectation (word : String) :
      OfMalformed next origin cs (some word)
        ⟨[], next, some (.invalidExpectation word (String.ofList cs) origin)⟩
  | shapeless (unshaped : ∀ f : Fields, f.Valid → f.toText ≠ cs) :
      OfMalformed next origin cs none ⟨[], next, some (.badLine (String.ofList cs) origin)⟩
  /-- Only as the line of a file it would be a definition or hold a command. -/
  | test {f : Fields} (valid : f.Valid) (written : f.toText = cs)
      (special : cs.head? = some '!' ∨ ¬ NoCommand f.path) (proper : Line.Declarable f.expected) :
      OfMalformed next origin cs none ⟨[.ofFields next f], next + 1, none⟩
  | improper {f : Fields} (valid : f.Valid) (written : f.toText = cs)
      (marked : cs.head? = some '!') (improper : ¬ Line.Declarable f.expected) :
      OfMalformed next origin cs none
        ⟨[], next, some (.invalidExpectation (String.ofList f.expected) (String.ofList cs) origin)⟩

section Line

variable {source : Option String} {next : Int} {line : String}

theorem run_singleton (kept : ¬ Line.SaysNothing (Line.content line)) :
    run source next [line] =
      match Test.ofLine next ⟨source, some 1⟩ line with
      | .error e => ⟨[], next, some e⟩
      | .ok t => ⟨[t], next + 1, none⟩ := by
  rw [← Line.isSkip_iff_saysNothing] at kept
  simp only [run, runFrom, if_neg kept]
  cases Test.ofLine next ⟨source, some 1⟩ line <;> rfl

theorem run_unshaped (source : Option String) (next : Int)
    (kept : ¬ Line.SaysNothing (Line.content line))
    (unshaped : ∀ f : Fields, f.Valid → f.toText ≠ Line.content line) :
    run source next [line] =
      ⟨[], next, some (.badLine (String.ofList (Line.content line)) ⟨source, some 1⟩)⟩ := by
  have none_read : Fields.ofText? (Line.content line) = none := by
    rw [Option.eq_none_iff_forall_ne_some]
    intro f read
    obtain ⟨valid, written⟩ := Fields.ofText?_eq_some_iff.mp read
    exact unshaped f valid written
  simp only [run_singleton kept, Test.ofLine, none_read]

theorem run_shaped (source : Option String) (next : Int) {f : Fields}
    (kept : ¬ Line.SaysNothing (Line.content line)) (valid : f.Valid)
    (written : f.toText = Line.content line) :
    (Line.Declarable f.expected →
      run source next [line] = ⟨[.ofFields next f], next + 1, none⟩) ∧
    (¬ Line.Declarable f.expected →
      run source next [line] =
        ⟨[], next, some (.invalidExpectation (String.ofList f.expected)
          (String.ofList (Line.content line)) ⟨source, some 1⟩)⟩) := by
  have read := Fields.ofText?_eq_some_iff.mpr ⟨valid, written⟩
  rw [← Line.isExpectation_iff_declarable]
  constructor
  · intro proper
    simp only [run_singleton kept, Test.ofLine, read, if_pos proper]
  · intro improper
    simp only [run_singleton kept, Test.ofLine, read, if_neg improper]

end Line

/-- A malformed line is refused with its expectation if that is at fault, and as a bad line if it
has no fields. Else it is read by its fields, and refused only for an expectation of theirs. -/
theorem run_malformed (source : Option String) (next : Int) {line text : String}
    {expected : Option String} (malformed : Line.ofText line = .malformed text expected) :
    text = String.ofList (Line.content line) ∧
      OfMalformed next ⟨source, some 1⟩ (Line.content line) expected (run source next [line]) := by
  cases Line.ofContent_eq_iff.mp malformed with
  | mark kept marked undefined =>
    refine ⟨rfl, ?_⟩
    by_cases shaped : ∃ f : Fields, f.Valid ∧ f.toText = Line.content line
    · obtain ⟨f, valid, written⟩ := shaped
      obtain ⟨reads, refuses⟩ := run_shaped source next kept valid written
      by_cases proper : Line.Declarable f.expected
      · rw [reads proper]
        exact .test valid written (.inl marked) proper
      · rw [refuses proper]
        exact .improper valid written marked proper
    · have unshaped : ∀ f : Fields, f.Valid → f.toText ≠ Line.content line :=
        fun f valid written => shaped ⟨f, valid, written⟩
      rw [run_unshaped source next kept unshaped]
      exact .shapeless unshaped
  | shapeless kept unmarked unshaped =>
    rw [run_unshaped source next kept unshaped]
    exact ⟨rfl, .shapeless unshaped⟩
  | expectation fields improper =>
    rw [(run_shaped source next fields.kept fields.valid fields.written).2 improper]
    exact ⟨rfl, .expectation _⟩
  | unfinished fields proper starts open_ =>
    rw [(run_shaped source next fields.kept fields.valid fields.written).1 proper]
    exact ⟨rfl, .test fields.valid fields.written (.inr starts) proper⟩

/-- An expectation that may not be declared, in a line that is refused for it. -/
theorem run_malformed_of_expectation :
    Line.ofText "a|x|FAIL|c " = .malformed "a|x|FAIL|c" (some "FAIL") ∧
      "a|x|FAIL|c" = String.ofList (Line.content "a|x|FAIL|c ") ∧
      OfMalformed 4 ⟨some "f", some 1⟩ (Line.content "a|x|FAIL|c ") (some "FAIL")
        (run (some "f") 4 ["a|x|FAIL|c "]) := by
  have malformed : Line.ofText "a|x|FAIL|c " = .malformed "a|x|FAIL|c" (some "FAIL") := by
    decide +kernel
  exact ⟨malformed, run_malformed (some "f") 4 malformed⟩

/-- Malformed lines that are read as tests: one that looks like a definition, and one that holds a
command without an end. A third that looks like a definition is refused, but for its expectation. -/
theorem malformed_lines_are_read :
    Line.ofText "!x=1|a|PASS|" = .malformed "!x=1|a|PASS|" none ∧
      run none 1 ["!x=1|a|PASS|"] = ⟨[⟨1, "!x=1", "a", .pass, "", none⟩], 2, none⟩ ∧
      Line.ofText "$(expand x|a|PASS|" = .malformed "$(expand x|a|PASS|" none ∧
      run none 1 ["$(expand x|a|PASS|"] = ⟨[⟨1, "$(expand x", "a", .pass, "", none⟩], 2, none⟩ ∧
      Line.ofText "!x=1|a|FAIL|" = .malformed "!x=1|a|FAIL|" none ∧
      run none 1 ["!x=1|a|FAIL|"] =
        ⟨[], 1, some (.invalidExpectation "FAIL" "!x=1|a|FAIL|" ⟨none, some 1⟩)⟩ := by
  decide +kernel

end Reading

end TestBench
