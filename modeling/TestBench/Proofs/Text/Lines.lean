import TestBench.Proofs.Text.Blank
import TestBench.Proofs.Text.Blocks

/-! The lines of a text, and texts that differ only in how their lines end. A line takes up every
character that ends none; so a text with other line ends, with blanks behind its lines or with a
line end more has the same lines but for blanks at their ends and an empty line after them. -/
namespace TestBench.Text

section Breaks

variable {c : Char} {cs ending line : List Char}

/-- What ends a line in front of a text. A carriage return that a line feed follows does not end one
alone. -/
inductive LineEnd (rest : List Char) : List Char → Prop where
  | feed : LineEnd rest ['\n']
  | both : LineEnd rest ['\r', '\n']
  | alone (unfed : rest.head? ≠ some '\n') : LineEnd rest ['\r']

theorem unifyBreaks_cons (ordinary : c ≠ '\r') (cs : List Char) :
    unifyBreaks (c :: cs) = c :: unifyBreaks cs := by
  rw [unifyBreaks, if_neg ordinary]
  rintro rest rfl
  exact absurd rfl ordinary

theorem unifyBreaks_append (free : '\r' ∉ line) (cs : List Char) :
    unifyBreaks (line ++ cs) = line ++ unifyBreaks cs := by
  induction line with
  | nil => rfl
  | cons c line ih =>
    simp only [List.mem_cons, not_or] at free
    rw [List.cons_append, unifyBreaks_cons (Ne.symm free.1), ih free.2, List.cons_append]

theorem unifyBreaks_end (ends : LineEnd cs ending) :
    unifyBreaks (ending ++ cs) = '\n' :: unifyBreaks cs := by
  cases ends with
  | feed => exact unifyBreaks_cons (by decide) cs
  | both => rfl
  | alone unfed =>
    cases cs with
    | nil => rfl
    | cons d cs =>
      rw [List.singleton_append, unifyBreaks, if_pos rfl]
      intro rest _ feed
      exact unfed (by rw [feed]; rfl)

theorem lines_feed (cs : List Char) : lines ('\n' :: cs) = [] :: lines cs := by
  simp only [lines, splitLines]
  rcases splitLines cs with ⟨_ | ⟨l, ls⟩, last⟩ <;> cases last <;> rfl

theorem lines_cons (ordinary : c ≠ '\n') (cs : List Char) :
    lines (c :: cs) = (c :: (lines cs).headD []) :: (lines cs).tail := by
  simp only [lines, splitLines, if_neg ordinary]
  rcases splitLines cs with ⟨_ | ⟨l, ls⟩, last⟩ <;> cases last <;> rfl

theorem lines_append (free : '\n' ∉ line) (cs : List Char) :
    lines (line ++ '\n' :: cs) = line :: lines cs := by
  induction line with
  | nil => exact lines_feed cs
  | cons c line ih =>
    simp only [List.mem_cons, not_or] at free
    rw [List.cons_append, lines_cons (Ne.symm free.1), ih free.2]
    rfl

theorem lines_of_free (free : '\n' ∉ line) (ne_nil : line ≠ []) : lines line = [line] := by
  induction line with
  | nil => exact absurd rfl ne_nil
  | cons c line ih =>
    simp only [List.mem_cons, not_or] at free
    rw [lines_cons (Ne.symm free.1)]
    cases line with
    | nil => rfl
    | cons d line =>
      rw [ih free.2 (List.cons_ne_nil d line)]
      rfl

/-- Whether a character can end a line. -/
def isBreak (c : Char) : Bool :=
  c == '\n' || c == '\r'

theorem not_mem_of_break (free : ∀ d ∈ line, isBreak d = false) (breaks : isBreak c = true) :
    c ∉ line := by
  intro mem
  rw [free c mem] at breaks
  cases breaks

theorem unifyBreaks_break (ends : ∀ d ∈ cs.head?, isBreak d = true) :
    cs = [] ∨ ∃ rest, unifyBreaks cs = '\n' :: rest := by
  rcases cs with _ | ⟨d, cs⟩
  · exact .inl rfl
  · right
    have found : d = '\n' ∨ d = '\r' := by simpa [isBreak] using ends d rfl
    rcases found with rfl | rfl
    · exact ⟨_, unifyBreaks_end .feed⟩
    · rcases cs with _ | ⟨e, cs⟩
      · exact ⟨[], rfl⟩
      · by_cases fed : e = '\n'
        · subst fed
          exact ⟨_, unifyBreaks_end .both⟩
        · exact ⟨_, unifyBreaks_end (.alone (by simpa using fed))⟩

theorem last_of_cons {p : Char → Prop} (last : ∀ d ∈ (c :: cs).getLast?, p d) :
    ∀ d ∈ cs.getLast?, p d := by
  intro d mem
  exact last d (by simp [List.getLast?_cons, Option.mem_def.mp mem])

/-- What stands between two line ends is a line, whatever other characters it holds. -/
theorem lines_between {front back : List Char} (free : ∀ d ∈ line, isBreak d = false)
    (ne_nil : line ≠ []) (starts : ∀ d ∈ front.getLast?, isBreak d = true)
    (ends : ∀ d ∈ back.head?, isBreak d = true) :
    ∃ above below, lines (unifyBreaks (front ++ (line ++ back))) = above ++ line :: below ∧
      (front ≠ [] → above ≠ []) := by
  induction front using unifyBreaks.induct with
  | case1 =>
    have no_return : '\r' ∉ line := not_mem_of_break free rfl
    have no_feed : '\n' ∉ line := not_mem_of_break free rfl
    rw [List.nil_append, unifyBreaks_append no_return]
    rcases unifyBreaks_break ends with rfl | ⟨rest, more⟩
    · exact ⟨[], [], by simpa [unifyBreaks] using lines_of_free no_feed ne_nil, by simp⟩
    · rw [more, lines_append no_feed]
      exact ⟨[], lines rest, rfl, by simp⟩
  | case2 front ih =>
    obtain ⟨above, below, found, -⟩ := ih (last_of_cons (last_of_cons starts))
    refine ⟨[] :: above, below, ?_, by simp⟩
    have unified := @unifyBreaks_end (front ++ (line ++ back)) _ .both
    exact (congrArg lines unified).trans (by rw [lines_feed, found]; rfl)
  | case3 c front plain ih =>
    obtain ⟨above, below, found, started⟩ := ih (last_of_cons starts)
    by_cases breaks : isBreak c = true
    · have ending : LineEnd (front ++ (line ++ back)) [c] := by
        simp only [isBreak, Bool.or_eq_true, beq_iff_eq] at breaks
        rcases breaks with rfl | rfl
        · exact .feed
        · refine .alone ?_
          cases front with
          | nil =>
            obtain ⟨d, line, rfl⟩ := List.exists_cons_of_ne_nil ne_nil
            rintro ⟨⟩
            exact absurd (free _ List.mem_cons_self) (by decide)
          | cons e front =>
            rintro ⟨⟩
            exact plain front rfl rfl
      refine ⟨[] :: above, below, ?_, by simp⟩
      exact (congrArg lines (unifyBreaks_end ending)).trans (by rw [lines_feed, found]; rfl)
    · -- the line that `c` stands in is one before, since `front` goes on behind `c`
      have more : front ≠ [] := by
        rintro rfl
        exact breaks (starts c rfl)
      obtain ⟨first, above, rfl⟩ := List.exists_cons_of_ne_nil (started more)
      simp only [isBreak, Bool.or_eq_true, beq_iff_eq, not_or] at breaks
      refine ⟨(c :: first) :: above, below, ?_, by simp⟩
      rw [List.cons_append, unifyBreaks_cons breaks.2, lines_cons breaks.1, found]
      rfl

end Breaks

/-- Blanks that end no line. -/
def IsPadding (blanks : List Char) : Prop :=
  ∀ c ∈ blanks, isBlank c = true ∧ isBreak c = false

/-- The second text is the first with other line ends, with blanks behind its lines, and perhaps
with a line end behind the last one. -/
inductive Relaid : List Char → List Char → Prop where
  | keep {c : Char} {cs ds : List Char} (ordinary : c ≠ '\n') (rest : Relaid cs ds) :
      Relaid (c :: cs) (c :: ds)
  | feed {blanks ending cs ds : List Char} (padding : IsPadding blanks) (ends : LineEnd ds ending)
      (rest : Relaid cs ds) : Relaid ('\n' :: cs) (blanks ++ (ending ++ ds))
  | last {blanks ending : List Char} (padding : IsPadding blanks)
      (ends : ending = [] ∨ LineEnd [] ending) : Relaid [] (blanks ++ ending)

/-- The same lines but for blanks at their ends and a blank line behind them. -/
inductive SameLines : List (List Char) → List (List Char) → Prop where
  | nil : SameLines [] []
  | blank {line : List Char} (blank : trimEnd line = []) : SameLines [] [line]
  | cons {line other : List Char} {lines others : List (List Char)}
      (same : trimEnd line = trimEnd other) (rest : SameLines lines others) :
      SameLines (line :: lines) (other :: others)

section Padding

variable {blanks : List Char}

theorem IsPadding.not_mem {c : Char} (padding : IsPadding blanks) (breaks : isBreak c = true) :
    c ∉ blanks :=
  not_mem_of_break (fun d mem => (padding d mem).2) breaks

theorem IsPadding.trimEnd (padding : IsPadding blanks) : trimEnd blanks = [] := by
  induction blanks with
  | nil => rfl
  | cons c blanks ih =>
    obtain ⟨first, others⟩ := List.forall_mem_cons.mp padding
    rw [trimEnd_cons, if_pos ⟨ih others, first.1⟩]

end Padding

section Relaid

variable {cs ds : List Char}

theorem SameLines.keep {c : Char} {ls ms : List (List Char)} (same : SameLines ls ms) :
    SameLines ((c :: ls.headD []) :: ls.tail) ((c :: ms.headD []) :: ms.tail) := by
  cases same with
  | nil => exact .cons rfl .nil
  | blank blank => exact .cons (by simp [trimEnd_cons, blank]) .nil
  | cons same rest => exact .cons (by simp [trimEnd_cons, same]) rest

/-- Texts without carriage returns have the same lines as what they are laid out to. -/
theorem Relaid.sameLines (relaid : Relaid cs ds) (no_return : '\r' ∉ cs) :
    SameLines (lines cs) (lines (unifyBreaks ds)) := by
  induction relaid with
  | keep ordinary rest ih =>
    simp only [List.mem_cons, not_or] at no_return
    rw [unifyBreaks_cons (Ne.symm no_return.1), lines_cons ordinary, lines_cons ordinary]
    exact (ih no_return.2).keep
  | feed padding ends rest ih =>
    rw [unifyBreaks_append (padding.not_mem rfl), unifyBreaks_end ends,
      lines_append (padding.not_mem rfl), lines_feed]
    refine .cons padding.trimEnd.symm (ih ?_)
    exact fun mem => no_return (List.mem_cons_of_mem _ mem)
  | @last blanks ending padding ends =>
    rw [unifyBreaks_append (padding.not_mem rfl)]
    rcases ends with rfl | ends
    · rcases blanks with _ | ⟨c, blanks⟩
      · exact .nil
      · rw [unifyBreaks, List.append_nil,
          lines_of_free (padding.not_mem rfl) (List.cons_ne_nil c blanks)]
        exact .blank padding.trimEnd
    · have unified := unifyBreaks_end ends
      rw [List.append_nil] at unified
      rw [unified, lines_append (padding.not_mem rfl)]
      exact .blank padding.trimEnd

end Relaid

end TestBench.Text
