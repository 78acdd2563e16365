import TestBench.Proofs.Text.Blank

/-! Words without the scan that finds them: a text is taken apart into words and the blanks around
them in one way only. -/
namespace TestBench.Text

/-- The words are the runs of characters that are not blank, each as long as it can be. -/
inductive Split : List Char → List (List Char) → Prop where
  | blank {cs : List Char} (blank : ∀ c ∈ cs, isBlank c = true) : Split cs []
  | word {blanks word rest : List Char} {words : List (List Char)}
      (blank : ∀ c ∈ blanks, isBlank c = true) (ne_nil : word ≠ [])
      (visible : ∀ c ∈ word, isBlank c = false) (ended : ∀ c ∈ rest.head?, isBlank c = true)
      (more : Split rest words) : Split (blanks ++ (word ++ rest)) (word :: words)

theorem Split.cons_blank {c : Char} {cs : List Char} {ws : List (List Char)}
    (blank : isBlank c = true) (split : Split cs ws) : Split (c :: cs) ws := by
  cases split with
  | blank others => exact .blank (List.forall_mem_cons.mpr ⟨blank, others⟩)
  | word others ne_nil visible ended more =>
    rw [← List.cons_append]
    exact .word (List.forall_mem_cons.mpr ⟨blank, others⟩) ne_nil visible ended more

theorem wordsFrom_blank {c : Char} (blank : isBlank c = true) (cs : List Char) :
    wordsFrom (c :: cs) = ([], words cs) := by
  simp only [wordsFrom, words, blank, if_true]

theorem words_blank {c : Char} (blank : isBlank c = true) (cs : List Char) :
    words (c :: cs) = words cs := by
  simp only [words, wordsFrom_blank blank, List.isEmpty_nil, if_true]

theorem words_blanks {blanks : List Char} (blank : ∀ c ∈ blanks, isBlank c = true)
    (cs : List Char) : words (blanks ++ cs) = words cs := by
  induction blanks with
  | nil => rfl
  | cons c blanks ih =>
    obtain ⟨first, others⟩ := List.forall_mem_cons.mp blank
    rw [List.cons_append, words_blank first, ih others]

theorem wordsFrom_visible {word : List Char} (visible : ∀ c ∈ word, isBlank c = false)
    (cs : List Char) :
    wordsFrom (word ++ cs) = (word ++ (wordsFrom cs).1, (wordsFrom cs).2) := by
  induction word with
  | nil => rfl
  | cons c word ih =>
    obtain ⟨first, others⟩ := List.forall_mem_cons.mp visible
    simp only [List.cons_append, wordsFrom, first, ih others, Bool.false_eq_true, if_false]

theorem wordsFrom_ended {cs : List Char} (ended : ∀ c ∈ cs.head?, isBlank c = true) :
    wordsFrom cs = ([], words cs) := by
  cases cs with
  | nil => rfl
  | cons c cs =>
    have blank := ended c rfl
    rw [wordsFrom_blank blank, words_blank blank]

theorem words_word {word rest : List Char} (ne_nil : word ≠ [])
    (visible : ∀ c ∈ word, isBlank c = false) (ended : ∀ c ∈ rest.head?, isBlank c = true) :
    words (word ++ rest) = word :: words rest := by
  have found := wordsFrom_visible visible rest
  rw [wordsFrom_ended ended, List.append_nil] at found
  simp only [words, found, List.isEmpty_iff, ne_nil, if_false]

theorem words_of_split {cs : List Char} {ws : List (List Char)} (split : Split cs ws) :
    words cs = ws := by
  induction split with
  | blank blank => simpa [words, wordsFrom] using words_blanks blank []
  | word blank ne_nil visible ended more ih =>
    rw [words_blanks blank, words_word ne_nil visible ended, ih]

theorem Split.started {word rest : List Char} {ws : List (List Char)}
    (visible : ∀ c ∈ word, isBlank c = false) (ended : ∀ c ∈ rest.head?, isBlank c = true)
    (more : Split rest ws) :
    Split (word ++ rest) (if word.isEmpty then ws else word :: ws) := by
  split
  · rename_i empty
    rw [List.isEmpty_iff.mp empty]
    exact more
  · rename_i some_left
    rw [← List.nil_append (word ++ rest)]
    exact .word (by simp) (by simpa using some_left) visible ended more

theorem wordsFrom_splits (cs : List Char) :
    ∃ rest, cs = (wordsFrom cs).1 ++ rest ∧ (∀ c ∈ (wordsFrom cs).1, isBlank c = false) ∧
      (∀ c ∈ rest.head?, isBlank c = true) ∧ Split rest (wordsFrom cs).2 := by
  induction cs with
  | nil => exact ⟨[], rfl, by simp [wordsFrom], by simp, .blank (by simp)⟩
  | cons c cs ih =>
    obtain ⟨rest, cut, visible, ended, more⟩ := ih
    cases blank : isBlank c with
    | true =>
      have split := Split.started visible ended more
      rw [← cut] at split
      rw [wordsFrom_blank blank]
      exact ⟨c :: cs, rfl, by simp, by simp [blank], split.cons_blank blank⟩
    | false =>
      have going_on : wordsFrom (c :: cs) = (c :: (wordsFrom cs).1, (wordsFrom cs).2) := by
        simp only [wordsFrom, blank, Bool.false_eq_true, if_false]
      rw [going_on]
      exact ⟨rest, by rw [List.cons_append, ← cut],
        List.forall_mem_cons.mpr ⟨blank, visible⟩, ended, more⟩

theorem split_words (cs : List Char) : Split cs (words cs) := by
  obtain ⟨rest, cut, visible, ended, more⟩ := wordsFrom_splits cs
  have split := Split.started visible ended more
  rwa [← cut] at split

end TestBench.Text
