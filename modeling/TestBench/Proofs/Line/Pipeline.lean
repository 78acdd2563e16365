import TestBench.Proofs.Line.Expansion

/-! Reading a file against a description of it that knows no flat lines. Each line is rejected with
a failure or stands for the fields of tests; a file is read up to its first rejected line. The two
stages work one inside the other, so this holds of tests, ids and symbols also where reading ends
early. Leaves that would not survive as text are excluded. -/
namespace TestBench

namespace Line

/-- The failures that lines give rise to. -/
inductive Rejected (fs : FileSystem) (origin : Origin) : Line → Failure → Prop where
  | malformed (text : String) :
      Rejected fs origin (.malformed text none) (.malformedLine "BAD LINE" text origin)
  | expectation (text expected : String) :
      Rejected fs origin (.malformed text (some expected))
        (.invalidExpectation expected text origin)
  | command {stem rest : String} {command : List String}
      (other : ∀ directory, command ≠ ["expand", directory]) :
      Rejected fs origin (.expansion stem command rest)
        (.unknownCommand (" ".intercalate command) origin)
  | root {stem directory rest : String} {e : Failure}
      (failed : fs.leaves (stem ++ directory) = .error e)
      (discovery : e = .notDirectory (stem ++ directory) ∨
        ∃ path reason, e = .unlistable path reason) :
      Rejected fs origin (.expansion stem ["expand", directory] rest) e

/-- The fields of the tests that a line stands for. -/
inductive Stands (fs : FileSystem) (line : String) : List Fields → Prop where
  | skip (kind : ofText line = .skip) : Stands fs line []
  | definition {name value : String} (kind : ofText line = .definition name value) :
      Stands fs line []
  | literal {text : String} {f : Fields} (kind : ofText line = .literal text) (valid : f.Valid)
      (written : f.toText = content line) : Stands fs line [f]
  | expansion {stem directory rest : String} {leaves : List String} {f : Fields}
      (kind : ofText line = .expansion stem ["expand", directory] rest)
      (scanned : fs.leaves (stem ++ directory) = .ok leaves) (valid : f.Valid)
      (written : f.toText = content line) : Stands fs line (leaves.map f.withPath)

/-- The leaves of a line can stand in front of other fields: none holds a bar or starts, after
blanks, with the mark of a comment. -/
def Plain (fs : FileSystem) (line : String) : Prop :=
  ∀ stem directory rest leaves, ofText line = .expansion stem ["expand", directory] rest →
    fs.leaves (stem ++ directory) = .ok leaves →
    ∀ leaf ∈ leaves, '|' ∉ leaf.toList ∧ leaf.toList.find? (!Text.isBlank ·) ≠ some '#'

theorem not_isComment_of_plain {f : Fields} {leaf : String}
    (plain : leaf.toList.find? (!Text.isBlank ·) ≠ some '#') :
    ¬ IsComment (f.withPath leaf).toText := by
  rintro ⟨blanks, text, cut, blank, -⟩
  have none_before : blanks.find? (!Text.isBlank ·) = none := by
    simpa using blank
  have visible : Text.isBlank '#' = false ∧ Text.isBlank '|' = false := by decide
  have first := congrArg (List.find? (!Text.isBlank ·)) cut
  rw [Fields.toText_eq, List.find?_append, List.find?_append, none_before] at first
  simp only [List.find?_cons, visible, Bool.not_false, Option.none_or] at first
  cases found : leaf.toList.find? (!Text.isBlank ·) with
  | none =>
    simp only [Fields.withPath, found, Option.none_or, Option.some.injEq] at first
    exact absurd first (by decide)
  | some c =>
    simp only [Fields.withPath, found, Option.some_or, Option.some.injEq] at first
    exact plain (by rw [found, first])

theorem contribution_eq_error_iff {fs : FileSystem} {origin : Origin} {l : Line} {e : Failure} :
    l.contribution fs origin = .error e ↔ Rejected fs origin l e := by
  constructor
  · intro h
    unfold contribution at h
    split at h
    · cases h
    · cases h
    · cases h
    · rename_i stem directory rest
      cases scan : fs.leaves (stem ++ directory) with
      | error e' =>
        rw [scan] at h
        cases h
        exact .root scan (FileSystem.leaves_error scan)
      | ok leaves =>
        rw [scan] at h
        cases h
    · rename_i other
      cases h
      exact .command other
    · cases h
      exact .malformed _
    · cases h
      exact .expectation _ _
  · intro h
    cases h with
    | malformed text => rfl
    | expectation text expected => rfl
    | command other =>
      unfold contribution
      split <;> simp_all
    | root failed discovery => simp only [contribution, failed, Except.map]

theorem stands_or_rejected (fs : FileSystem) (origin : Origin) (line : String) :
    (∃ fields, Stands fs line fields) ∨ ∃ e, Rejected fs origin (ofText line) e := by
  cases kind : ofText line with
  | skip => exact .inl ⟨[], .skip kind⟩
  | definition name value => exact .inl ⟨[], .definition kind⟩
  | literal text =>
    obtain ⟨f, read, -⟩ := reads_literal kind
    obtain ⟨valid, written⟩ := Fields.ofText?_eq_some_iff.mp read
    exact .inl ⟨[f], .literal kind valid written⟩
  | malformed text expected =>
    cases expected with
    | none => exact .inr ⟨_, .malformed text⟩
    | some expected => exact .inr ⟨_, .expectation text expected⟩
  | expansion stem command rest =>
    by_cases known : ∃ directory, command = ["expand", directory]
    · obtain ⟨directory, rfl⟩ := known
      cases scan : fs.leaves (stem ++ directory) with
      | error e => exact .inr ⟨e, .root scan (FileSystem.leaves_error scan)⟩
      | ok leaves =>
        obtain ⟨f, valid, written, -⟩ := fields_of_expansion kind scan
        exact .inl ⟨_, .expansion kind scan valid written⟩
    · exact .inr ⟨_, .command fun directory h => known ⟨directory, h⟩⟩

theorem not_rejected_of_stands {fs : FileSystem} {line : String} {fields : List Fields}
    (h : Stands fs line fields) (origin : Origin) (e : Failure) :
    ¬ Rejected fs origin (ofText line) e := by
  rw [← contribution_eq_error_iff]
  cases h with
  | skip kind => simp [kind, contribution]
  | definition kind => simp [kind, contribution]
  | literal kind => simp [kind, contribution]
  | expansion kind scanned => simp [kind, contribution, scanned, Except.map]

end Line

def Line.value? (name : String) : Line → Option String
  | .definition n value => if n = name then some value else none
  | _ => none

namespace Symbols

def define (s : Symbols) : Line → Symbols
  | .definition name value => s.set name value
  | _ => s

theorem get?_define (s : Symbols) (l : Line) (name : String) :
    (s.define l).get? name = (l.value? name).or (s.get? name) := by
  cases l with
  | definition n value =>
    simp only [define, Bindings.get?_set, Line.value?]
    split <;> rfl
  | skip | literal | expansion | malformed => rfl

end Symbols

namespace FileReading

section Steps

variable {fs : FileSystem} {source : Option String} {n k : Nat} {next : Int} {symbols : Symbols}
  {line : String} {rest : List String}

theorem runFrom_rejected {e : Failure}
    (h : Line.Rejected fs ⟨source, some n⟩ (Line.ofText line) e) :
    runFrom fs source n k next symbols (line :: rest) = ⟨[], next, symbols, some e⟩ := by
  simp only [runFrom, Line.contribution_eq_error_iff.mpr h]

theorem runFrom_lines {flat : List String} {fields : List Fields}
    (contributed : (Line.ofText line).contribution fs ⟨source, some n⟩ = .ok (.lines flat))
    (reads : List.Forall₂ Line.Reads flat fields) :
    runFrom fs source n k next symbols (line :: rest) =
      let r := runFrom fs source (n + 1) (k + flat.length) (next + fields.length) symbols rest
      { r with tests := Test.numbered next fields ++ r.tests } := by
  simp only [runFrom, contributed, Reading.runFrom_of_reads reads]

theorem runFrom_stands {fields : List Fields} (h : Line.Stands fs line fields)
    (plain : Line.Plain fs line) :
    ∃ k', runFrom fs source n k next symbols (line :: rest) =
      let r := runFrom fs source (n + 1) k' (next + fields.length)
        (symbols.define (Line.ofText line)) rest
      { r with tests := Test.numbered next fields ++ r.tests } := by
  cases h with
  | skip kind =>
    rw [kind]
    exact ⟨_, runFrom_lines (by rw [kind]; rfl) .nil⟩
  | definition kind =>
    rw [kind]
    refine ⟨k, ?_⟩
    simp [runFrom, kind, Line.contribution, Test.numbered, Symbols.define]
  | @literal text f kind valid written =>
    obtain ⟨g, read, reads⟩ := reads_literal kind
    obtain ⟨valid', written'⟩ := Fields.ofText?_eq_some_iff.mp read
    obtain rfl := Fields.toText_inj valid' valid (written'.trans written.symm)
    rw [kind]
    exact ⟨_, runFrom_lines (by rw [kind]; rfl) (.cons reads .nil)⟩
  | @expansion stem directory last leaves f kind scanned valid written =>
    obtain ⟨g, valid', written', trimmed, proper, rfl, named⟩ := fields_of_expansion kind scanned
    obtain rfl := Fields.toText_inj valid' valid (written'.trans written.symm)
    have reads := reads_leaves valid trimmed proper named fun leaf hl =>
      have fits := plain stem directory _ leaves kind scanned leaf hl
      ⟨fits.1, Line.not_isComment_of_plain fits.2⟩
    rw [kind]
    exact ⟨_, runFrom_lines (by rw [kind, Line.contribution, scanned]; rfl) reads⟩

end Steps

/-- The reading of lines of which the first has the number `n`: `k` of them are accepted, and these
stand for `fields`. -/
structure Follows (fs : FileSystem) (source : Option String) (n : Nat) (next : Int)
    (symbols : Symbols) (lines : List String) (r : FileReading) (k : Nat)
    (fields : List (List Fields)) : Prop where
  accepted : List.Forall₂ (Line.Stands fs) (lines.take k) fields
  first : ∀ line ∈ lines.take k, ∀ origin e, ¬ Line.Rejected fs origin (Line.ofText line) e
  stopped : ∀ e, r.failure = some e ↔
    ∃ line, lines[k]? = some line ∧ Line.Rejected fs ⟨source, some (n + k)⟩ (Line.ofText line) e
  whole : r.failure = none → k = lines.length
  tests : r.tests = Test.numbered next fields.flatten
  next : r.next = next + fields.flatten.length
  values : ∀ name, r.symbols.get? name =
    ((lines.take k).reverse.findSome? fun line => (Line.ofText line).value? name).or
      (symbols.get? name)
  symbols : r.symbols = (lines.take k).foldl (fun s line => s.define (Line.ofText line)) symbols

theorem runFrom_follows {fs : FileSystem} {lines : List String}
    (plain : ∀ line ∈ lines, Line.Plain fs line) (source : Option String) (n flat : Nat)
    (next : Int) (symbols : Symbols) :
    ∃ k fields, Follows fs source n next symbols lines
      (runFrom fs source n flat next symbols lines) k fields := by
  induction lines generalizing n flat next symbols with
  | nil =>
    refine ⟨0, [], ?_⟩
    constructor <;> simp [runFrom, Test.numbered]
  | cons line lines ih =>
    rcases Line.stands_or_rejected fs ⟨source, some n⟩ line with ⟨here, stands⟩ | ⟨e, rejected⟩
    · obtain ⟨flat', step⟩ := @runFrom_stands fs source n flat next symbols line lines here
        stands (plain line List.mem_cons_self)
      obtain ⟨k, fields, rest⟩ := ih (fun l hl => plain l (List.mem_cons_of_mem _ hl)) (n + 1)
        flat' (next + here.length) (symbols.define (Line.ofText line))
      refine ⟨k + 1, here :: fields, ?_⟩
      rw [step]
      dsimp only
      constructor
      · exact .cons stands rest.accepted
      · rw [List.take_succ_cons, List.forall_mem_cons]
        exact ⟨Line.not_rejected_of_stands stands, rest.first⟩
      · have number : (n : Int) + 1 + k = n + (k + 1) := by omega
        simpa [number] using rest.stopped
      · intro h
        rw [List.length_cons, rest.whole h]
      · rw [rest.tests, List.flatten_cons, numbered_append]
      · rw [rest.next, List.flatten_cons, List.length_append]
        omega
      · intro name
        rw [rest.values, Symbols.get?_define, List.take_succ_cons, List.reverse_cons,
          List.findSome?_append, Option.or_assoc]
        simp
      · exact rest.symbols
    · refine ⟨0, [], ?_⟩
      rw [runFrom_rejected rejected]
      have unique (e' : Failure) :
          Line.Rejected fs ⟨source, some n⟩ (Line.ofText line) e' ↔ e = e' := by
        rw [← Line.contribution_eq_error_iff, Line.contribution_eq_error_iff.mpr rejected,
          Except.error.injEq]
      constructor <;> simp [Test.numbered, unique]

end FileReading

end TestBench
