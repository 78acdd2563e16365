import TestBench.Line.Basic

/-! Fields against the text they are read from. A text is cut at its bars in one way only, so what
`ofText?` reads is settled by the text that the fields write and by the characters each field may
hold. -/
namespace TestBench

theorem cut_splits (sep : Char) (cs : List Char) :
    sep ∉ (cut sep cs).1 ∧ (cut sep cs).1 ++ ((cut sep cs).2.map (sep :: ·)).getD [] = cs := by
  induction cs with
  | nil => simp [cut]
  | cons c cs ih =>
    by_cases found : c = sep
    · simp [cut, found]
    · simp only [cut, if_neg found, List.mem_cons, not_or, List.cons_append, ih.2, and_true]
      exact ⟨Ne.symm found, ih.1⟩

theorem cut_join {sep : Char} {before : List Char} (absent : sep ∉ before)
    (after : Option (List Char)) :
    cut sep (before ++ (after.map (sep :: ·)).getD []) = (before, after) := by
  induction before with
  | nil => cases after <;> simp [cut]
  | cons c before ih =>
    simp only [List.mem_cons, not_or] at absent
    simp only [List.cons_append, cut, if_neg (Ne.symm absent.1), ih absent.2]

theorem cut_eq_iff {sep : Char} {cs before : List Char} {after : Option (List Char)} :
    cut sep cs = (before, after) ↔
      sep ∉ before ∧ before ++ (after.map (sep :: ·)).getD [] = cs := by
  constructor
  · intro h
    have splits := cut_splits sep cs
    rwa [h] at splits
  · rintro ⟨absent, rfl⟩
    exact cut_join absent after

theorem cut_append {sep : Char} {before : List Char} (absent : sep ∉ before) (cs : List Char) :
    cut sep (before ++ sep :: cs) = (before, some cs) :=
  cut_join absent (some cs)

namespace Fields

/-- The characters that the fields of a test line may hold. -/
structure Valid (f : Fields) : Prop where
  path_ne_nil : f.path ≠ []
  path : '|' ∉ f.path
  args : '|' ∉ f.args
  expected : '|' ∉ f.expected
  comment : '\n' ∉ f.comment.getD []

def rest (f : Fields) : List Char :=
  f.args ++ '|' :: f.expected ++ (f.comment.map ('|' :: ·)).getD []

theorem toText_eq (f : Fields) : f.toText = f.path ++ '|' :: f.rest := by
  simp [toText, rest]

theorem ofText?_toText {f : Fields} (valid : f.Valid) : ofText? f.toText = some f := by
  have named : cut '|' (f.expected ++ (f.comment.map ('|' :: ·)).getD []) =
      (f.expected, f.comment) := cut_join valid.expected f.comment
  have checked : (f.path.isEmpty || (f.comment.getD []).contains '\n') = false := by
    simp [valid.path_ne_nil, valid.comment]
  rw [toText_eq, rest, List.append_assoc, List.cons_append]
  simp only [ofText?, cut_append valid.path, cut_append valid.args, named, checked,
    Bool.false_eq_true, if_false]

theorem ofText?_eq_some_iff {cs : List Char} {f : Fields} :
    ofText? cs = some f ↔ f.Valid ∧ f.toText = cs := by
  constructor
  · intro h
    unfold ofText? at h
    rcases firstCut : cut '|' cs with ⟨path, _ | afterPath⟩
    · simp [firstCut] at h
    rcases secondCut : cut '|' afterPath with ⟨args, _ | afterArgs⟩
    · simp [firstCut, secondCut] at h
    rcases lastCut : cut '|' afterArgs with ⟨expected, comment⟩
    simp only [firstCut, secondCut, lastCut] at h
    split at h
    · cases h
    rename_i checked
    simp only [Bool.or_eq_true, List.isEmpty_iff, List.contains_eq_mem, decide_eq_true_eq,
      not_or] at checked
    cases h
    obtain ⟨path_free, rfl⟩ := cut_eq_iff.mp firstCut
    obtain ⟨args_free, rfl⟩ := cut_eq_iff.mp secondCut
    obtain ⟨expected_free, rfl⟩ := cut_eq_iff.mp lastCut
    exact ⟨⟨checked.1, path_free, args_free, expected_free, checked.2⟩, by simp [toText]⟩
  · rintro ⟨valid, rfl⟩
    exact ofText?_toText valid

theorem toText_inj {f g : Fields} (hf : f.Valid) (hg : g.Valid) (same : f.toText = g.toText) :
    f = g := by
  have read := ofText?_toText hf
  rw [same, ofText?_toText hg] at read
  exact (Option.some.inj read).symm

theorem valid_path {f : Fields} (valid : f.Valid) {path : List Char} (path_ne_nil : path ≠ [])
    (free : '|' ∉ path) : { f with path }.Valid :=
  { valid with path_ne_nil, path := free }

end Fields

end TestBench
