import TestBench.Text.Blank

/-! Laws of blanks: what is left of a text without the blanks at its end, and what its words are. -/
namespace TestBench.Text

theorem trimEnd_append (a b : List Char) :
    trimEnd (a ++ b) = if trimEnd b = [] then trimEnd a else a ++ trimEnd b := by
  induction a with
  | nil =>
    by_cases h : trimEnd b = []
    · simp [h]
    · simp [h]
  | cons c a ih =>
    rw [List.cons_append, trimEnd_cons, ih, trimEnd_cons]
    by_cases h : trimEnd b = []
    · simp only [h, if_true]
    · simp [h]

theorem trimEnd_trimEnd (cs : List Char) : trimEnd (trimEnd cs) = trimEnd cs := by
  induction cs with
  | nil => rfl
  | cons c cs ih =>
    rw [trimEnd_cons]
    split
    · rfl
    · rename_i h
      rw [trimEnd_cons, ih, if_neg h]

theorem trimEnd_append_cons {c : Char} (visible : isBlank c = false) (a b : List Char) :
    trimEnd (a ++ c :: b) = a ++ c :: trimEnd b := by
  have kept : trimEnd (c :: b) = c :: trimEnd b := by
    rw [trimEnd_cons, if_neg (by simp [visible])]
  rw [trimEnd_append, kept, if_neg (List.cons_ne_nil _ _)]

theorem trimEnd_of_last {cs : List Char} (last : ∀ c ∈ cs.getLast?, isBlank c = false) :
    trimEnd cs = cs := by
  rcases List.eq_nil_or_concat cs with rfl | ⟨front, c, rfl⟩
  · rfl
  · have visible : isBlank c = false := last c (by simp)
    rw [List.concat_eq_append]
    exact trimEnd_append_cons visible front []

theorem trimEnd_splits (cs : List Char) :
    ∃ blanks, cs = trimEnd cs ++ blanks ∧ (∀ c ∈ blanks, isBlank c = true) ∧
      ∀ c ∈ (trimEnd cs).getLast?, isBlank c = false := by
  induction cs with
  | nil => exact ⟨[], by simp⟩
  | cons c cs ih =>
    obtain ⟨blanks, cut, blank, last⟩ := ih
    rw [trimEnd_cons]
    by_cases empty : trimEnd cs = []
    · rw [empty, List.nil_append] at cut
      subst cut
      cases here : isBlank c with
      | true => exact ⟨c :: cs, by simp [empty], List.forall_mem_cons.mpr ⟨here, blank⟩,
          by simp [empty]⟩
      | false => exact ⟨cs, by simp [empty], blank, by simp [empty, here]⟩
    · rw [if_neg fun both => empty both.1]
      refine ⟨blanks, by rw [List.cons_append, ← cut], blank, ?_⟩
      rwa [List.getLast?_cons_of_ne_nil empty]

theorem wordsFrom_ne_nil (cs : List Char) : ∀ w ∈ (wordsFrom cs).2, w ≠ [] := by
  induction cs with
  | nil => simp [wordsFrom]
  | cons c cs ih =>
    intro w hw
    simp only [wordsFrom] at hw
    split at hw
    · dsimp only at hw
      split at hw
      · exact ih w hw
      · rename_i started
        rcases List.mem_cons.mp hw with rfl | hw
        · simpa using started
        · exact ih w hw
    · exact ih w hw

theorem words_ne_nil (cs : List Char) : ∀ w ∈ words cs, w ≠ [] := by
  intro w hw
  simp only [words] at hw
  split at hw
  · exact wordsFrom_ne_nil cs w hw
  · rename_i started
    rcases List.mem_cons.mp hw with rfl | hw
    · simpa using started
    · exact wordsFrom_ne_nil cs w hw

end TestBench.Text
