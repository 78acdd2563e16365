import TestBench.Text.LineBreak

/-! Decoding in blocks against decoding at once. Where the blocks end makes no difference to whether
a file is UTF-8: the machine goes on from one block to the next in the state it was left in. -/
namespace TestBench.Text

theorem run_append (s : Utf8State) (xs ys : List UInt8) :
    s.run (xs ++ ys) =
      ((s.run xs).1 ++ ((s.run xs).2.run ys).1, ((s.run xs).2.run ys).2) := by
  induction xs generalizing s with
  | nil => rfl
  | cons x xs ih => simp only [List.cons_append, Utf8State.run, ih, List.append_assoc]

theorem whole?_eq_none_iff {ps : List Utf8Piece} : whole? ps = none ↔ .broken ∈ ps := by
  induction ps with
  | nil => simp [whole?]
  | cons p ps ih => cases p <;> simp [whole?, ih]

theorem flatten_blocks (bytes : List UInt8) : (blocks bytes).flatten = bytes := by
  fun_induction blocks bytes with
  | case1 bytes empty => rw [List.isEmpty_iff.mp empty]; rfl
  | case2 bytes more ih => rw [List.flatten_cons, ih, List.take_append_drop]

theorem broken_mem_finish_iff {s : Utf8State} : .broken ∈ s.finish ↔ s ≠ .boundary := by
  cases s <;> simp [Utf8State.finish]

/-- Blocks are found broken, one after the other, exactly if their bytes yield a broken part. -/
theorem broken_decodeBlocks_iff (s : Utf8State) (bs : List (List UInt8)) :
    (decodeBlocks s bs).2 = true ↔
      .broken ∈ (s.run bs.flatten).1 ++ (s.run bs.flatten).2.finish := by
  -- the state is arbitrary: a block may begin inside a character
  induction bs generalizing s with
  | nil => simp [decodeBlocks, Utf8State.run, broken_mem_finish_iff]
  | cons block rest ih =>
    rw [List.flatten_cons, run_append]
    simp only [decodeBlocks]
    cases pieces : whole? (s.run block).1 with
    | none =>
      have broken := whole?_eq_none_iff.mp pieces
      simp [broken]
    | some text =>
      have unbroken : .broken ∉ (s.run block).1 := by
        rw [← whole?_eq_none_iff, pieces]
        simp
      simp [ih, unbroken]

/-- A file is read to its end exactly if it is UTF-8. -/
theorem broken_ofBytes_iff {bytes : List UInt8} :
    (LineStream.ofBytes bytes).broken = true ↔ decode? bytes = none := by
  have blockwise := broken_decodeBlocks_iff .boundary (blocks bytes)
  rw [flatten_blocks] at blockwise
  rw [decode?, whole?_eq_none_iff]
  exact blockwise

theorem whole?_append (ps qs : List Utf8Piece) :
    whole? (ps ++ qs) = (whole? ps).bind fun front => (whole? qs).map (front ++ ·) := by
  induction ps with
  | nil => simp [whole?]
  | cons p ps ih =>
    cases p with
    | broken => rfl
    | char c =>
      simp only [List.cons_append, whole?, ih]
      cases whole? ps <;> cases whole? qs <;> rfl

theorem decodeBlocks_of_whole {s : Utf8State} {bs : List (List UInt8)} {text : List Char}
    (whole : whole? ((s.run bs.flatten).1 ++ (s.run bs.flatten).2.finish) = some text) :
    decodeBlocks s bs = (text, false) := by
  induction bs generalizing s text with
  | nil =>
    cases s with
    | boundary =>
      cases whole
      rfl
    | inside => cases whole
  | cons block rest ih =>
    rw [List.flatten_cons, run_append, List.append_assoc, whole?_append] at whole
    obtain ⟨front, first, others⟩ := Option.bind_eq_some_iff.mp whole
    obtain ⟨back, second, rfl⟩ := Option.map_eq_some_iff.mp others
    simp only [decodeBlocks, first, ih second]

theorem ofBytes_of_decode {bytes : List UInt8} {text : List Char}
    (decoded : decode? bytes = some text) :
    LineStream.ofBytes bytes = ⟨(lines (unifyBreaks text)).map String.ofList, false⟩ := by
  have blockwise := flatten_blocks bytes
  rw [decode?, ← blockwise] at decoded
  simp only [LineStream.ofBytes, decodeBlocks_of_whole decoded, Bool.false_eq_true, if_false]

end TestBench.Text
