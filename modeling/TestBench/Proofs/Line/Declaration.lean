import TestBench.Proofs.Line.Grammar
import TestBench.Proofs.Line.Pipeline

/-! Declarations of tests, without the language they are made in. A declaration means the fields of
its tests, or the failure of the search for their paths; written as lines of a file, declarations
are read as what they mean. -/
namespace TestBench

/-- Where tests are declared: at a path, or in each leaf directory below a root. -/
inductive Place where
  | single (path : String)
  | below (root : String)

structure Declaration where
  place : Place
  args : String
  expected : Outcome
  comment : String

/-- What a search for directories fails with. -/
def Failure.FromSearch (failure : Failure) : Prop :=
  (∃ root, failure = .notDirectory root) ∨ ∃ path reason, failure = .unlistable path reason

/-- The path can stand in front of the other fields: it holds no bar, and does not start, after
blanks, with the mark of a comment. -/
def FitsLine (path : String) : Prop :=
  '|' ∉ path.toList ∧ path.toList.find? (!Text.isBlank ·) ≠ some '#'

namespace Place

variable {fs : FileSystem} {place : Place} {failure : Failure}

def paths (fs : FileSystem) : Place → Except Failure (List String)
  | .single path => .ok [path]
  | .below root => fs.leaves root

def field : Place → String
  | .single path => path
  | .below root => "$(expand " ++ root ++ ")"

/-- A place that a line can say. -/
inductive Proper (fs : FileSystem) : Place → Prop where
  | single {path : String} (ne_empty : path ≠ "") (fits : FitsLine path)
      (plain : NoCommand path.toList) (unmarked : path.toList.head? ≠ some '!') :
      Proper fs (.single path)
  | below {root : String} (ne_empty : root ≠ "")
      (chars : ∀ c ∈ root.toList, Text.isBlank c = false ∧ c ≠ ')' ∧ c ≠ '|')
      (fits : ∀ leaves, fs.leaves root = .ok leaves → ∀ leaf ∈ leaves, FitsLine leaf) :
      Proper fs (.below root)

theorem paths_error (failed : place.paths fs = .error failure) : failure.FromSearch := by
  cases place with
  | single path => cases failed
  | below root => exact (FileSystem.leaves_error failed).imp_left fun h => ⟨root, h⟩

theorem toList_field_below (root : String) :
    (field (.below root)).toList = '$' :: '(' :: ("expand ".toList ++ root.toList) ++ [')'] := by
  simp [field]

theorem Proper.fits_field (proper : place.Proper fs) : FitsLine place.field := by
  cases proper with
  | single ne_empty fits plain unmarked => exact fits
  | below ne_empty chars fits =>
    rw [FitsLine, toList_field_below]
    constructor
    · have root := fun mem => (chars '|' mem).2.2 rfl
      simpa using root
    · have first : Text.isBlank '$' = false := by decide
      simp [first]

theorem Proper.field_ne_empty (proper : place.Proper fs) : place.field ≠ "" := by
  cases proper with
  | single ne_empty fits plain unmarked => exact ne_empty
  | below => simp [field]

theorem Proper.field_unmarked (proper : place.Proper fs) : place.field.toList.head? ≠ some '!' := by
  cases proper with
  | single ne_empty fits plain unmarked => exact unmarked
  | below => simp [toList_field_below]

theorem Proper.command {root : String} (proper : (Place.below root).Proper fs) :
    EndsInCommand (field (.below root)).toList [] ("expand ".toList ++ root.toList) ∧
      Text.Split ("expand ".toList ++ root.toList) ["expand".toList, root.toList] := by
  cases proper with
  | below ne_empty chars fits =>
    constructor
    · refine ⟨toList_field_below root, by simp [NoCommand], ?_⟩
      have closed := fun mem => (chars ')' mem).2.1 rfl
      simpa using closed
    · have blank : " ".toList.all Text.isBlank = true := by decide
      have visible : "expand".toList.all (!Text.isBlank ·) = true := by decide
      have second : Text.Split (" ".toList ++ (root.toList ++ [])) [root.toList] :=
        .word (List.all_eq_true.mp blank) (by simpa using ne_empty)
          (fun c mem => (chars c mem).1) (by simp) (.blank (by simp))
      have both : Text.Split ([] ++ ("expand".toList ++ (" ".toList ++ (root.toList ++ []))))
          ["expand".toList, root.toList] :=
        .word (by simp) (by decide) (by simpa using visible) (by simpa using blank) second
      simpa using both

end Place

namespace Declaration

variable {fs : FileSystem} {d : Declaration}

def line (d : Declaration) : String :=
  d.place.field ++ "|" ++ d.args ++ "|" ++ d.expected.name ++ "|" ++ d.comment

def fields (d : Declaration) (path : String) : Fields :=
  ⟨path.toList, d.args.toList, d.expected.name.toList, some d.comment.toList⟩

structure Proper (fs : FileSystem) (d : Declaration) : Prop where
  place : d.place.Proper fs
  args : '|' ∉ d.args.toList
  expected : d.expected.isExpectation = true
  comment : '\n' ∉ d.comment.toList
  ended : ∀ c ∈ d.comment.toList.getLast?, Text.isBlank c = false

/-- The fields of the tests that are declared before a search fails, and the failure of that. -/
def meaning (fs : FileSystem) : List Declaration → List Fields × Option Failure
  | [] => ([], none)
  | d :: ds =>
    match d.place.paths fs with
    | .error failure => ([], some failure)
    | .ok paths => (paths.map d.fields ++ (meaning fs ds).1, (meaning fs ds).2)

theorem meaning_failure {ds : List Declaration} {failure : Failure}
    (failed : (meaning fs ds).2 = some failure) : failure.FromSearch := by
  induction ds with
  | nil => cases failed
  | cons d ds ih =>
    rw [meaning] at failed
    split at failed
    · rename_i search
      cases failed
      exact Place.paths_error search
    · exact ih failed

section Written

theorem bar_not_mem_name (o : Outcome) : '|' ∉ o.name.toList := by
  cases o <;> decide

theorem declarable_name {o : Outcome} (proper : o.isExpectation = true) :
    Line.Declarable o.name.toList :=
  Line.isExpectation_iff_declarable.mp (Line.isExpectation_iff.mpr ⟨o, proper, rfl⟩)

theorem toList_line (d : Declaration) : d.line.toList = (d.fields d.place.field).toText := by
  simp [line, fields, Fields.toText]

variable (proper : d.Proper fs)
include proper

theorem content_line : Line.content d.line = (d.fields d.place.field).toText := by
  have comment := Text.trimEnd_of_last proper.ended
  rw [Line.content, toList_line]
  simp only [Fields.toText, fields, Option.map_some, Option.getD_some]
  rw [Text.trimEnd_append_cons (by decide), comment]

theorem hasFields_line : Line.HasFields (Line.content d.line) (d.fields d.place.field) := by
  have fits := proper.place.fits_field
  have field : (d.fields d.place.field).path ≠ [] := by
    simpa [fields] using proper.place.field_ne_empty
  rw [content_line proper]
  constructor
  · rw [← Line.isSkip_iff_saysNothing, Line.isSkip_of_bar (by simp [Fields.toText])]
    exact @Line.not_isComment_of_plain (d.fields d.place.field) d.place.field fits.2
  · rw [Fields.toText_eq, List.head?_append_of_ne_nil _ field]
    exact proper.place.field_unmarked
  · exact ⟨field, fits.1, proper.args, bar_not_mem_name d.expected, proper.comment⟩
  · rfl

theorem ofText_single {path : String} (place : d.place = .single path) :
    Line.ofText d.line = .literal (String.ofList (Line.content d.line)) := by
  refine Line.ofContent_of_grammar
    (.literal (hasFields_line proper) (declarable_name proper.expected) ?_)
  have said := proper.place
  rw [place] at said ⊢
  cases said with
  | single ne_empty fits plain unmarked => exact plain

theorem ofText_below {root : String} (place : d.place = .below root) :
    Line.ofText d.line =
      .expansion "" ["expand", root] (String.ofList (d.fields d.place.field).rest) := by
  have said := proper.place
  rw [place] at said
  obtain ⟨command, split⟩ := said.command
  rw [← congrArg Place.field place] at command
  have rule := Line.Grammar.expansion (hasFields_line proper) (declarable_name proper.expected)
    command split (by rw [content_line proper, Fields.toText_eq])
  rw [Line.ofText]
  simpa using Line.ofContent_of_grammar rule

theorem stands_line {paths : List String} (found : d.place.paths fs = .ok paths) :
    Line.Stands fs d.line (paths.map d.fields) := by
  have fields := hasFields_line proper
  cases place : d.place with
  | single path =>
    rw [place] at found fields
    cases found
    exact .literal (ofText_single proper place) fields.valid fields.written
  | below root =>
    rw [place] at found
    exact .expansion (ofText_below proper place) (by simpa [Place.paths] using found) fields.valid
      fields.written

theorem rejected_line {failure : Failure} (failed : d.place.paths fs = .error failure)
    (origin : Origin) : Line.Rejected fs origin (Line.ofText d.line) failure := by
  cases place : d.place with
  | single path =>
    rw [place] at failed
    cases failed
  | below root =>
    rw [place] at failed
    have search : fs.leaves ("" ++ root) = .error failure := by
      simpa [Place.paths] using failed
    rw [ofText_below proper place]
    exact .root search (FileSystem.leaves_error search)

theorem plain_line : Line.Plain fs d.line := by
  intro stem directory rest leaves kind scanned
  have said := proper.place
  cases place : d.place with
  | single path =>
    rw [ofText_single proper place] at kind
    cases kind
  | below root =>
    rw [ofText_below proper place] at kind
    cases kind
    rw [place] at said
    cases said with
    | below ne_empty chars fits => exact fits leaves (by simpa using scanned)

end Written

theorem runFrom_lines {ds : List Declaration} (proper : ∀ d ∈ ds, d.Proper fs)
    (source : Option String) (n k : Nat) (next : Int) (symbols : Symbols) :
    FileReading.runFrom fs source n k next symbols (ds.map line) =
      ⟨Test.numbered next (meaning fs ds).1, next + (meaning fs ds).1.length, symbols,
        (meaning fs ds).2⟩ := by
  -- the numbers of lines matter to no failure here, since a search does not know its line
  induction ds generalizing n k next with
  | nil => simp [FileReading.runFrom, meaning, Test.numbered]
  | cons d ds ih =>
    obtain ⟨here, others⟩ := List.forall_mem_cons.mp proper
    rw [List.map_cons, meaning]
    cases search : d.place.paths fs with
    | error failure =>
      rw [FileReading.runFrom_rejected (rejected_line here search _)]
      simp [Test.numbered]
    | ok paths =>
      obtain ⟨k', step⟩ := @FileReading.runFrom_stands fs source n k next symbols d.line
        (ds.map line) _ (stands_line here search) (plain_line here)
      have undefined : symbols.define (Line.ofText d.line) = symbols := by
        cases place : d.place with
        | single path => rw [ofText_single here place]; rfl
        | below root => rw [ofText_below here place]; rfl
      rw [step, undefined, ih others, numbered_append]
      simp only [List.length_append, Int.natCast_add, Int.add_assoc]

end Declaration

end TestBench
