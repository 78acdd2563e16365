import TestBench.Proofs.Line.Classify
import TestBench.Proofs.Text.Split

/-! The grammar of lines, each kind by the texts it has. Every text has exactly one kind: the rules
exclude one another, and what no other rule takes is malformed. -/
namespace TestBench

section Commands

variable {c : Char} {cs stem : List Char}

def NoCommand (cs : List Char) : Prop :=
  ¬ ['$', '('] <:+: cs

theorem noCommand_cons :
    NoCommand (c :: cs) ↔ ¬ (c = '$' ∧ cs.head? = some '(') ∧ NoCommand cs := by
  have starts : ['$', '('] <+: c :: cs ↔ c = '$' ∧ cs.head? = some '(' := by
    cases cs <;> simp [List.cons_prefix_cons, eq_comm]
  rw [NoCommand, List.infix_cons_iff, not_or, starts, NoCommand]

theorem cutCommand_cons :
    cutCommand (c :: cs) =
      if c = '$' ∧ cs.head? = some '(' then ([], some cs.tail)
      else (c :: (cutCommand cs).1, (cutCommand cs).2) := by
  split
  · rename_i starts
    obtain ⟨rfl, head⟩ := starts
    obtain ⟨rest, rfl⟩ := List.head?_eq_some_iff.mp head
    rfl
  · rename_i plain
    rw [cutCommand]
    rintro rest rfl rfl
    exact plain ⟨rfl, rfl⟩

theorem cutCommand_of_noCommand (plain : NoCommand cs) : cutCommand cs = (cs, none) := by
  induction cs with
  | nil => rfl
  | cons c cs ih =>
    obtain ⟨here, others⟩ := noCommand_cons.mp plain
    rw [cutCommand_cons, if_neg here, ih others]

theorem head?_before_command (rest : List Char) :
    (stem ++ '$' :: '(' :: rest).head? = some '(' ↔ stem.head? = some '(' := by
  cases stem <;> simp

theorem cutCommand_append (plain : NoCommand stem) (rest : List Char) :
    cutCommand (stem ++ '$' :: '(' :: rest) = (stem, some rest) := by
  induction stem with
  | nil => rfl
  | cons c stem ih =>
    obtain ⟨here, others⟩ := noCommand_cons.mp plain
    rw [← head?_before_command rest] at here
    rw [List.cons_append, cutCommand_cons, if_neg here, ih others]

theorem noCommand_or_first (cs : List Char) :
    NoCommand cs ∨ ∃ stem rest, NoCommand stem ∧ cs = stem ++ '$' :: '(' :: rest := by
  induction cs with
  | nil => exact .inl (by simp [NoCommand])
  | cons c cs ih =>
    by_cases here : c = '$' ∧ cs.head? = some '('
    · obtain ⟨rfl, head⟩ := here
      obtain ⟨rest, rfl⟩ := List.head?_eq_some_iff.mp head
      exact .inr ⟨[], rest, by simp [NoCommand], rfl⟩
    · rcases ih with plain | ⟨stem, rest, plain, rfl⟩
      · exact .inl (noCommand_cons.mpr ⟨here, plain⟩)
      · rw [head?_before_command] at here
        exact .inr ⟨c :: stem, rest, noCommand_cons.mpr ⟨here, plain⟩, rfl⟩

/-- A path is a stem and then a command. -/
structure EndsInCommand (path stem body : List Char) : Prop where
  written : path = stem ++ '$' :: '(' :: body ++ [')']
  stem : NoCommand stem
  body : ')' ∉ body

end Commands

namespace Line

variable {cs name value : List Char}

/-- A letter of the alphabet or an underscore, and then such characters and digits. -/
def IsIdentifier (name : List Char) : Prop :=
  ∃ c cs, name = c :: cs ∧ (c.isAlpha = true ∨ c = '_') ∧ ∀ d ∈ cs, d.isAlphanum = true ∨ d = '_'

structure Defines (cs name value : List Char) : Prop where
  written : cs = '!' :: name ++ '=' :: value
  name : IsIdentifier name
  value : '|' ∉ value

def SaysNothing (cs : List Char) : Prop :=
  (∀ c ∈ cs, Text.isBlank c = true) ∨ IsComment cs

/-- A text that says something and is not marked as a definition has these fields. -/
structure HasFields (cs : List Char) (f : Fields) : Prop where
  kept : ¬ SaysNothing cs
  unmarked : cs.head? ≠ some '!'
  valid : f.Valid
  written : f.toText = cs

def Declarable (word : List Char) : Prop :=
  word = "PASS".toList ∨ word = "XFAIL".toList

/-- The kinds of lines by their texts without the blanks at the end. -/
inductive Grammar (cs : List Char) : Line → Prop where
  | skip (nothing : SaysNothing cs) : Grammar cs .skip
  | definition {name value : List Char} (kept : ¬ SaysNothing cs)
      (defines : Defines cs name value) :
      Grammar cs (.definition (String.ofList name) (String.ofList value))
  | mark (kept : ¬ SaysNothing cs) (marked : cs.head? = some '!')
      (undefined : ∀ name value, ¬ Defines cs name value) :
      Grammar cs (.malformed (String.ofList cs) none)
  | shapeless (kept : ¬ SaysNothing cs) (unmarked : cs.head? ≠ some '!')
      (unshaped : ∀ f : Fields, f.Valid → f.toText ≠ cs) :
      Grammar cs (.malformed (String.ofList cs) none)
  | expectation {f : Fields} (fields : HasFields cs f) (improper : ¬ Declarable f.expected) :
      Grammar cs (.malformed (String.ofList cs) (some (String.ofList f.expected)))
  | literal {f : Fields} (fields : HasFields cs f) (proper : Declarable f.expected)
      (plain : NoCommand f.path) : Grammar cs (.literal (String.ofList cs))
  | expansion {f : Fields} {stem body rest : List Char} {words : List (List Char)}
      (fields : HasFields cs f) (proper : Declarable f.expected)
      (command : EndsInCommand f.path stem body) (split : Text.Split body words)
      (behind : cs = f.path ++ '|' :: rest) :
      Grammar cs (.expansion (String.ofList stem) (words.map String.ofList) (String.ofList rest))
  | unfinished {f : Fields} (fields : HasFields cs f) (proper : Declarable f.expected)
      (starts : ¬ NoCommand f.path) (open_ : ∀ stem body, ¬ EndsInCommand f.path stem body) :
      Grammar cs (.malformed (String.ofList cs) none)

theorem isSkip_iff_saysNothing : isSkip cs = true ↔ SaysNothing cs :=
  isSkip_iff cs

theorem isName_iff : isName name = true ↔ IsIdentifier name := by
  cases name with
  | nil => simp [isName, IsIdentifier]
  | cons c cs =>
    simp only [isName, startsName, continuesName, Bool.and_eq_true, Bool.or_eq_true, beq_iff_eq,
      List.all_eq_true]
    constructor
    · rintro ⟨first, others⟩
      exact ⟨c, cs, rfl, first, others⟩
    · rintro ⟨_, _, parts, first, others⟩
      cases parts
      exact ⟨first, others⟩

theorem equals_not_mem (identifier : IsIdentifier name) : '=' ∉ name := by
  obtain ⟨c, cs, rfl, first, others⟩ := identifier
  intro mem
  rcases List.mem_cons.mp mem with rfl | mem
  · exact absurd first (by decide)
  · exact absurd (others _ mem) (by decide)

theorem definition?_eq_some_iff :
    definition? cs = some (name, value) ↔ Defines ('!' :: cs) name value := by
  constructor
  · intro h
    unfold definition? at h
    rcases cutting : cut '=' cs with ⟨before, _ | after⟩
    · simp [cutting] at h
    · simp only [cutting] at h
      split at h
      · rename_i checked
        simp only [Bool.and_eq_true, isName_iff, Bool.not_eq_true', List.contains_eq_mem,
          decide_eq_false_iff_not] at checked
        cases h
        obtain ⟨-, written⟩ := cut_eq_iff.mp cutting
        exact ⟨by simp [← written], checked.1, checked.2⟩
      · cases h
  · rintro ⟨written, identifier, free⟩
    obtain rfl : cs = name ++ '=' :: value := by simpa using written
    have named := isName_iff.mpr identifier
    simp only [definition?, cut_append (equals_not_mem identifier), named, Bool.true_and]
    simp [free]

theorem isExpectation_iff_declarable {word : List Char} :
    isExpectation word = true ↔ Declarable word := by
  rw [isExpectation_iff]
  constructor
  · rintro ⟨o, proper, rfl⟩
    cases o with
    | pass => exact .inl rfl
    | xfail => exact .inr rfl
    | fail | xpass => cases proper
  · rintro (rfl | rfl)
    · exact ⟨.pass, rfl, rfl⟩
    · exact ⟨.xfail, rfl, rfl⟩

theorem ofContent_marked (kept : ¬ SaysNothing ('!' :: cs)) :
    ofContent ('!' :: cs) =
      match definition? cs with
      | some (name, value) => .definition (String.ofList name) (String.ofList value)
      | none => .malformed (String.ofList ('!' :: cs)) none := by
  rw [← isSkip_iff_saysNothing] at kept
  unfold ofContent
  rw [if_neg kept]
  rfl

theorem ofContent_unmarked (kept : ¬ SaysNothing cs) (unmarked : cs.head? ≠ some '!') :
    ofContent cs =
      match Fields.ofText? cs with
      | none => .malformed (String.ofList cs) none
      | some f =>
        if isExpectation f.expected then ofFields cs f
        else .malformed (String.ofList cs) (some (String.ofList f.expected)) := by
  rw [← isSkip_iff_saysNothing] at kept
  unfold ofContent
  rw [if_neg kept]
  split
  · exact absurd rfl unmarked
  · rfl

theorem ofContent_hasFields {f : Fields} (fields : HasFields cs f) :
    ofContent cs =
      if isExpectation f.expected then ofFields cs f
      else .malformed (String.ofList cs) (some (String.ofList f.expected)) := by
  rw [ofContent_unmarked fields.kept fields.unmarked,
    Fields.ofText?_eq_some_iff.mpr ⟨fields.valid, fields.written⟩]

theorem ofFields_command {text stem body rest : List Char} {f : Fields}
    (command : EndsInCommand f.path stem body) (behind : text = f.path ++ '|' :: rest) :
    ofFields text f =
      .expansion (String.ofList stem) ((Text.words body).map String.ofList)
        (String.ofList rest) := by
  obtain ⟨written, plain, closed⟩ := command
  rw [List.append_assoc, List.cons_append, List.cons_append] at written
  have copied : text.drop (f.path.length + 1) = rest := by
    rw [behind, List.append_cons]
    exact List.drop_left' (by simp)
  simp only [ofFields, written, cutCommand_append plain, cut_append closed]
  rw [← written, copied]

theorem ofFields_open {text : List Char} {f : Fields} (starts : ¬ NoCommand f.path)
    (open_ : ∀ stem body, ¬ EndsInCommand f.path stem body) :
    ofFields text f = .malformed (String.ofList text) none := by
  rcases noCommand_or_first f.path with plain | ⟨stem, rest, plain, path⟩
  · exact absurd plain starts
  · rcases closing : cut ')' rest with ⟨body, _ | _ | ⟨c, behind⟩⟩
    · simp only [ofFields, path, cutCommand_append plain, closing]
    · obtain ⟨closed, written⟩ := cut_eq_iff.mp closing
      exact absurd ⟨by rw [path, ← written]; simp, plain, closed⟩ (open_ stem body)
    · simp only [ofFields, path, cutCommand_append plain, closing]

theorem ofFields_plain {text : List Char} {f : Fields} (plain : NoCommand f.path) :
    ofFields text f = .literal (String.ofList text) := by
  simp only [ofFields, cutCommand_of_noCommand plain]

theorem ofContent_of_grammar {l : Line} (rule : Grammar cs l) : ofContent cs = l := by
  cases rule with
  | skip nothing =>
    unfold ofContent
    rw [if_pos (isSkip_iff_saysNothing.mpr nothing)]
  | definition kept defines =>
    obtain ⟨rest, rfl⟩ : ∃ rest, cs = '!' :: rest := ⟨_, defines.written⟩
    rw [ofContent_marked kept, definition?_eq_some_iff.mpr defines]
  | mark kept marked undefined =>
    obtain ⟨rest, rfl⟩ := List.head?_eq_some_iff.mp marked
    rw [ofContent_marked kept]
    cases found : definition? rest with
    | none => rfl
    | some pair => exact absurd (definition?_eq_some_iff.mp found) (undefined _ _)
  | shapeless kept unmarked unshaped =>
    rw [ofContent_unmarked kept unmarked]
    cases found : Fields.ofText? cs with
    | none => rfl
    | some f =>
      obtain ⟨valid, written⟩ := Fields.ofText?_eq_some_iff.mp found
      exact absurd written (unshaped f valid)
  | expectation fields improper =>
    rw [ofContent_hasFields fields, if_neg (isExpectation_iff_declarable.not.mpr improper)]
  | literal fields proper plain =>
    rw [ofContent_hasFields fields, if_pos (isExpectation_iff_declarable.mpr proper),
      ofFields_plain plain]
  | expansion fields proper command split behind =>
    rw [ofContent_hasFields fields, if_pos (isExpectation_iff_declarable.mpr proper),
      ofFields_command command behind, Text.words_of_split split]
  | unfinished fields proper starts open_ =>
    rw [ofContent_hasFields fields, if_pos (isExpectation_iff_declarable.mpr proper),
      ofFields_open starts open_]

theorem grammar_of_fields {f : Fields} (fields : HasFields cs f) : ∃ l, Grammar cs l := by
  by_cases proper : Declarable f.expected
  · by_cases plain : NoCommand f.path
    · exact ⟨_, .literal fields proper plain⟩
    · by_cases closed : ∃ stem body, EndsInCommand f.path stem body
      · obtain ⟨stem, body, command⟩ := closed
        have behind : cs = f.path ++ '|' :: f.rest := by rw [← fields.written, Fields.toText_eq]
        exact ⟨_, .expansion fields proper command (Text.split_words body) behind⟩
      · exact ⟨_, .unfinished fields proper plain fun stem body h => closed ⟨stem, body, h⟩⟩
  · exact ⟨_, .expectation fields proper⟩

theorem exists_grammar (cs : List Char) : ∃ l, Grammar cs l := by
  by_cases nothing : SaysNothing cs
  · exact ⟨_, .skip nothing⟩
  · by_cases marked : cs.head? = some '!'
    · by_cases defined : ∃ name value, Defines cs name value
      · obtain ⟨name, value, defines⟩ := defined
        exact ⟨_, .definition nothing defines⟩
      · exact ⟨_, .mark nothing marked fun name value h => defined ⟨name, value, h⟩⟩
    · by_cases shaped : ∃ f : Fields, f.Valid ∧ f.toText = cs
      · obtain ⟨f, valid, written⟩ := shaped
        exact grammar_of_fields ⟨nothing, marked, valid, written⟩
      · exact ⟨_, .shapeless nothing marked fun f valid written => shaped ⟨f, valid, written⟩⟩

theorem ofContent_eq_iff {l : Line} : ofContent cs = l ↔ Grammar cs l := by
  constructor
  · rintro rfl
    obtain ⟨l, rule⟩ := exists_grammar cs
    rwa [ofContent_of_grammar rule]
  · exact ofContent_of_grammar

/-- A line is of the kind that the grammar gives its text, the line without the blanks at its end.
The fields of a text, where it has any, are settled by it. -/
theorem ofText_iff_grammar (line : String) :
    ∃ cs blanks, line.toList = cs ++ blanks ∧ (∀ c ∈ blanks, Text.isBlank c = true) ∧
      (∀ c ∈ cs.getLast?, Text.isBlank c = false) ∧
      (∀ l, ofText line = l ↔ Grammar cs l) ∧
      ∀ f g : Fields, f.Valid → g.Valid → f.toText = cs → g.toText = cs → f = g := by
  obtain ⟨blanks, cut, blank, last⟩ := Text.trimEnd_splits line.toList
  refine ⟨content line, blanks, cut, blank, last, fun l => ofContent_eq_iff, ?_⟩
  intro f g hf hg written same
  exact Fields.toText_inj hf hg (written.trans same.symm)

end Line

end TestBench
