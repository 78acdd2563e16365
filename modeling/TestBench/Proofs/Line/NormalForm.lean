import TestBench.Proofs.Line.Composition
import TestBench.Proofs.Line.Grammar

/-! Flat lines flattened again. A literal line stays the text it is, and the line of a leaf is a
literal line unless the leaf brings a bar, a command or a mark of its own into it. So what has been
flattened does not change any more, wherever and from whatever symbols it is flattened. -/
namespace TestBench

namespace Line

/-- A leaf that means nothing but itself in front of other fields. -/
structure InertLeaf (leaf : String) : Prop where
  bar : '|' ∉ leaf.toList
  command : NoCommand leaf.toList
  mark : leaf.toList.head? ≠ some '!'
  comment : leaf.toList.find? (!Text.isBlank ·) ≠ some '#'

/-- The leaves that are found for a line are inert. -/
def Inert (fs : FileSystem) (line : String) : Prop :=
  ∀ stem directory rest leaves, ofText line = .expansion stem ["expand", directory] rest →
    fs.leaves (stem ++ directory) = .ok leaves → ∀ leaf ∈ leaves, InertLeaf leaf

theorem literal_of_literal {line text : String} (literal : ofText line = .literal text) :
    ofText text = .literal text := by
  obtain ⟨-, rfl, -⟩ := ofText_literal literal
  rw [ofText, content, String.toList_ofList, trimEnd_content]
  exact literal

theorem literal_leafLine {f : Fields} {leaf : String} (valid : f.Valid)
    (trimmed : Text.trimEnd f.toText = f.toText) (proper : isExpectation f.expected = true)
    (named : leaf ≠ "") (inert : InertLeaf leaf) :
    ofText (leafLine (String.ofList f.rest) leaf) =
      .literal (leafLine (String.ofList f.rest) leaf) := by
  have path_ne_nil : leaf.toList ≠ [] := by simpa using named
  have fields : HasFields (f.withPath leaf).toText (f.withPath leaf) := by
    refine ⟨?_, ?_, Fields.valid_path valid path_ne_nil inert.bar, rfl⟩
    · rw [← isSkip_iff_saysNothing, ← content_leafLine trimmed, isSkip_leafLine trimmed]
      exact not_isComment_of_plain inert.comment
    · have head : (f.withPath leaf).toText.head? = leaf.toList.head? := by
        rw [Fields.toText_eq]
        exact List.head?_append_of_ne_nil _ path_ne_nil
      rw [head]
      exact inert.mark
  have rule := Grammar.literal fields (isExpectation_iff_declarable.mp proper) inert.command
  have text : String.ofList (f.withPath leaf).toText = leafLine (String.ofList f.rest) leaf := by
    rw [Fields.toText_eq, leafLine, ← String.toList_inj]
    simp [Fields.withPath, Fields.rest]
  rw [ofText, content_leafLine trimmed, ← text]
  exact ofContent_of_grammar rule

theorem lines_of_contribution {fs : FileSystem} {origin : Origin} {l : Line} {flat : List String}
    (contributed : l.contribution fs origin = .ok (.lines flat)) :
    flat = [] ∨ (∃ text, l = .literal text ∧ flat = [text]) ∨
      ∃ stem directory rest leaves, l = .expansion stem ["expand", directory] rest ∧
        fs.leaves (stem ++ directory) = .ok leaves ∧ flat = leaves.map (leafLine rest) := by
  cases l with
  | skip =>
    cases contributed
    exact .inl rfl
  | definition name value => cases contributed
  | literal text =>
    cases contributed
    exact .inr (.inl ⟨text, rfl, rfl⟩)
  | expansion stem command rest =>
    by_cases known : ∃ directory, command = ["expand", directory]
    · obtain ⟨directory, rfl⟩ := known
      cases scan : fs.leaves (stem ++ directory) with
      | error e => simp [contribution, scan, Except.map] at contributed
      | ok leaves =>
        simp only [contribution, scan, Except.map, Except.ok.injEq, Contribution.lines.injEq]
          at contributed
        exact .inr (.inr ⟨stem, directory, rest, leaves, rfl, scan, contributed.symm⟩)
    · rw [contribution] at contributed
      · cases contributed
      · rintro directory rfl
        exact known ⟨directory, rfl⟩
  | malformed text expected => cases expected <;> cases contributed

theorem literal_of_contribution {fs : FileSystem} {origin : Origin} {line : String}
    {flat : List String} (inert : Inert fs line)
    (contributed : (ofText line).contribution fs origin = .ok (.lines flat)) :
    ∀ l ∈ flat, ofText l = .literal l := by
  obtain rfl | ⟨text, kind, rfl⟩ | ⟨stem, directory, rest, leaves, kind, scan, rfl⟩ :=
    lines_of_contribution contributed
  · simp
  · simpa using literal_of_literal kind
  · obtain ⟨f, valid, -, trimmed, proper, rfl, named⟩ := fields_of_expansion kind scan
    rw [List.forall_mem_map]
    intro leaf mem
    exact literal_leafLine valid trimmed proper (named leaf mem)
      (inert stem directory _ leaves kind scan leaf mem)

end Line

namespace Flattening

variable {fs : FileSystem} {source : Option String} {lines : List String}

theorem literal_of_mem_ofLine {line : String} (inert : Line.Inert fs line) (n : Nat)
    (symbols : Symbols) :
    ∀ l ∈ (ofLine fs source n symbols line).lines, Line.ofText l = .literal l := by
  unfold ofLine
  cases contributed : (Line.ofText line).contribution fs ⟨source, some n⟩ with
  | error e => simp [ofContribution]
  | ok c =>
    cases c with
    | symbol name value => simp [ofContribution]
    | lines flat => exact Line.literal_of_contribution inert contributed

theorem literal_of_mem_runFrom (inert : ∀ line ∈ lines, Line.Inert fs line) (n : Nat)
    (symbols : Symbols) :
    ∀ l ∈ (runFrom fs source n symbols lines).lines, Line.ofText l = .literal l := by
  induction lines generalizing n symbols with
  | nil => simp [runFrom]
  | cons line lines ih =>
    obtain ⟨first, others⟩ := List.forall_mem_cons.mp inert
    have here : ∀ l ∈ (ofLine fs source n symbols line).lines, Line.ofText l = .literal l :=
      literal_of_mem_ofLine first n symbols
    rw [runFrom_cons]
    cases ended : (ofLine fs source n symbols line).failure with
    | some e =>
      rw [andThen_of_failure ended]
      exact here
    | none =>
      rw [andThen_of_whole ended]
      intro l mem
      rcases List.mem_append.mp mem with mem | mem
      · exact here l mem
      · exact ih others _ _ l mem

theorem runFrom_literal (literal : ∀ line ∈ lines, Line.ofText line = .literal line) (n : Nat)
    (symbols : Symbols) : runFrom fs source n symbols lines = ⟨lines, symbols, none⟩ := by
  induction lines generalizing n with
  | nil => rfl
  | cons line lines ih =>
    obtain ⟨first, others⟩ := List.forall_mem_cons.mp literal
    simp only [runFrom, first, Line.contribution, ih others, List.singleton_append]

/-- If all leaves that are found for the lines are inert, each flat line is a literal line of
itself, and the flat lines stay what they are when they are flattened again. This holds also of the
flat lines in front of a failure. -/
theorem flat_lines_stay (fs : FileSystem) (source : Option String) (symbols : Symbols)
    (lines : List String) (inert : ∀ line ∈ lines, Line.Inert fs line) :
    let flat := (run fs source symbols lines).lines
    (∀ line ∈ flat, Line.ofText line = .literal line) ∧
      ∀ (fs' : FileSystem) (source' : Option String) (symbols' : Symbols),
        run fs' source' symbols' flat = ⟨flat, symbols', none⟩ := by
  intro flat
  have literal : ∀ line ∈ flat, Line.ofText line = .literal line :=
    literal_of_mem_runFrom inert 1 symbols
  exact ⟨literal, fun fs' source' symbols' => runFrom_literal literal 1 symbols'⟩

/-- A leaf that looks like a comment below its root, and blanks behind a literal line. -/
theorem flat_lines_stay_of_two :
    let table : PathTable := { directories := ["r", "r/#a !"] }
    let lines := ["!x=1", "$(expand r)|y|XFAIL|$(c)\t", "p||PASS "]
    let flat := ["r/#a !|y|XFAIL|$(c)", "p||PASS"]
    (∀ line ∈ lines, Line.Inert table.fileSystem line) ∧
      run table.fileSystem none {} lines = ⟨flat, ⟨[("x", "1")]⟩, none⟩ ∧
      (∀ line ∈ flat, Line.ofText line = .literal line) ∧
      ∀ (fs' : FileSystem) (source' : Option String) (symbols' : Symbols),
        run fs' source' symbols' flat = ⟨flat, symbols', none⟩ := by
  intro table lines flat
  have kinds : Line.ofText "!x=1" = .definition "x" "1" ∧
      Line.ofText "$(expand r)|y|XFAIL|$(c)\t" =
        .expansion "" ["expand", "r"] "y|XFAIL|$(c)" ∧
      Line.ofText "p||PASS " = .literal "p||PASS" := by decide +kernel
  have scanned : table.fileSystem.leaves ("" ++ "r") = .ok ["r/#a !"] := by decide +kernel
  have inert : ∀ line ∈ lines, Line.Inert table.fileSystem line := by
    refine List.forall_mem_cons.mpr ⟨?_, List.forall_mem_cons.mpr ⟨?_,
      List.forall_mem_singleton.mpr ?_⟩⟩
    · intro stem directory rest leaves kind
      cases kinds.1.symm.trans kind
    · intro stem directory rest leaves kind scan
      cases kinds.2.1.symm.trans kind
      cases scanned.symm.trans scan
      rw [List.forall_mem_singleton]
      exact ⟨by decide, by unfold NoCommand; decide, by decide, by decide +kernel⟩
    · intro stem directory rest leaves kind
      cases kinds.2.2.symm.trans kind
  have flattened : run table.fileSystem none {} lines = ⟨flat, ⟨[("x", "1")]⟩, none⟩ := by
    decide +kernel
  have stays := flat_lines_stay table.fileSystem none {} lines inert
  rw [flattened] at stays
  exact ⟨inert, flattened, stays⟩

end Flattening

end TestBench
