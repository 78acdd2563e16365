import Mathlib.Data.List.TakeWhile
import TestBench.Proofs.Line.Fields
import TestBench.Proofs.Text.Blank

/-! What the kind of a line says about its text. A line that stands for tests has one set of valid
fields; a line that is passed over is blank or a comment. -/
namespace TestBench

theorem ofName?_eq_some_iff {word : String} {o : Outcome} :
    Outcome.ofName? word = some o ↔ o.name = word := by
  constructor
  · intro h
    simpa using List.find?_some h
  · rintro rfl
    cases o <;> decide

namespace Line

theorem isExpectation_iff {word : List Char} :
    isExpectation word = true ↔ ∃ o : Outcome, o.isExpectation = true ∧ word = o.name.toList := by
  constructor
  · intro h
    cases named : Outcome.ofName? (String.ofList word) with
    | none => simp [isExpectation, named] at h
    | some o =>
      refine ⟨o, by simpa [isExpectation, named] using h, ?_⟩
      rw [ofName?_eq_some_iff.mp named, String.toList_ofList]
  · rintro ⟨o, proper, rfl⟩
    have named := ofName?_eq_some_iff.mpr (rfl : o.name = o.name)
    simp [isExpectation, named, proper]

/-- A comment, blanks before it and no line feed in it. -/
def IsComment (cs : List Char) : Prop :=
  ∃ blanks text, cs = blanks ++ '#' :: text ∧ (∀ c ∈ blanks, Text.isBlank c = true) ∧ '\n' ∉ text

theorem isSkip_iff (cs : List Char) :
    isSkip cs = true ↔ (∀ c ∈ cs, Text.isBlank c = true) ∨ IsComment cs := by
  constructor
  · intro h
    unfold isSkip at h
    split at h
    · rename_i empty
      exact .inl (List.dropWhile_eq_nil_iff.mp empty)
    · rename_i c text found
      simp only [Bool.and_eq_true, beq_iff_eq, Bool.not_eq_true', List.contains_eq_mem,
        decide_eq_false_iff_not] at h
      refine .inr ⟨cs.takeWhile Text.isBlank, text, ?_, ?_, h.2⟩
      · rw [← h.1, ← found, List.takeWhile_append_dropWhile]
      · exact fun c hc => List.mem_takeWhile_imp hc
  · rintro (blank | ⟨blanks, text, rfl, blank, line⟩)
    · simp only [isSkip, List.dropWhile_eq_nil_iff.mpr blank]
    · have visible : Text.isBlank '#' = false := by decide
      simp [isSkip, List.dropWhile_append_of_pos blank, visible, line]

/-- A text with a bar in it is passed over only as a comment. -/
theorem isSkip_of_bar {cs : List Char} (bar : '|' ∈ cs) : isSkip cs = true ↔ IsComment cs := by
  rw [isSkip_iff, or_iff_right]
  intro blank
  exact absurd (blank _ bar) (by decide)

/-- Whether a line stands for tests. -/
def isTest : Line → Bool
  | .literal _ | .expansion .. => true
  | _ => false

theorem fields_of_isTest (text : List Char) (h : (ofContent text).isTest = true) :
    isSkip text = false ∧ ∃ f, Fields.ofText? text = some f ∧ isExpectation f.expected = true ∧
      ofContent text = ofFields text f := by
  unfold ofContent at h ⊢
  split at h
  · cases h
  · rename_i kept
    refine ⟨by simpa using kept, ?_⟩
    rw [if_neg kept]
    split at h
    · split at h <;> cases h
    · split at h
      · cases h
      · rename_i f read
        split at h
        · rename_i proper
          exact ⟨f, read, proper, by simp only [proper, if_true]⟩
        · cases h

theorem ofText_literal {line text : String} (h : ofText line = .literal text) :
    isSkip (content line) = false ∧ text = String.ofList (content line) ∧
      ∃ f, Fields.ofText? (content line) = some f ∧ isExpectation f.expected = true := by
  obtain ⟨kept, f, read, proper, judged⟩ :=
    fields_of_isTest (content line) (by rw [← ofText, h]; rfl)
  refine ⟨kept, ?_, f, read, proper⟩
  rw [← ofText, h] at judged
  unfold ofFields at judged
  split at judged
  · cases judged
    rfl
  · split at judged <;> cases judged

theorem ofText_expansion {line stem rest : String} {command : List String}
    (h : ofText line = .expansion stem command rest) :
    (∀ word ∈ command, word ≠ "") ∧ ∃ f, Fields.ofText? (content line) = some f ∧
      isExpectation f.expected = true ∧ rest = String.ofList f.rest := by
  obtain ⟨-, f, read, proper, judged⟩ :=
    fields_of_isTest (content line) (by rw [← ofText, h]; rfl)
  rw [← ofText, h] at judged
  unfold ofFields at judged
  split at judged
  · cases judged
  · split at judged
    · rename_i body _
      cases judged
      refine ⟨?_, f, read, proper, ?_⟩
      · intro word hw
        obtain ⟨w, found, rfl⟩ := List.mem_map.mp hw
        simpa using Text.words_ne_nil body w found
      · rw [← (Fields.ofText?_eq_some_iff.mp read).2, Fields.toText_eq]
        simp
    · cases judged

theorem trimEnd_content (line : String) : Text.trimEnd (content line) = content line :=
  Text.trimEnd_trimEnd _

end Line

end TestBench
