import TestBench.Session.Basic

/-! What patterns select: the tests whose paths hold one of them as a part, letters of either case
being the same. Patterns without characters do not count. -/
namespace TestBench

theorem holds_iff_infix {cs part : List Char} : Text.holds cs part = true ↔ part <:+: cs := by
  induction cs with
  | nil => simp [Text.holds, List.infix_nil]
  | cons c cs ih => simp [Text.holds, ih, List.infix_cons_iff]

def Test.Selected (patterns : List String) (t : Test) : Prop :=
  (∀ p ∈ patterns, p = "") ∨
    ∃ p ∈ patterns, p ≠ "" ∧ Text.lower p.toList <:+: Text.lower t.path.toList

theorem mem_select_iff {patterns : List String} {tests : List Test} {t : Test} :
    t ∈ select patterns tests ↔ t ∈ tests ∧ t.Selected patterns := by
  unfold select
  dsimp only
  by_cases none : ∀ p ∈ patterns, p = ""
  · have empty : patterns.filter (!·.isEmpty) = [] := by simpa using none
    simp only [empty, List.isEmpty_nil, if_true]
    exact ⟨fun member => ⟨member, .inl none⟩, And.left⟩
  · have some_ : (patterns.filter (!·.isEmpty)).isEmpty = false := by simpa using none
    simp [some_, Test.Selected, none, Test.matchesAny, holds_iff_infix]

theorem select_sublist (patterns : List String) (tests : List Test) :
    (select patterns tests).Sublist tests := by
  unfold select
  dsimp only
  split
  · exact .refl _
  · exact List.filter_sublist

end TestBench
