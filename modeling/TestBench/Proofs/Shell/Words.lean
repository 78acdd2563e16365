import TestBench.Run.Trial

/-! Command lines against the rules by which a shell cuts a text into words. The rules go through
the text with the quotes that are open, and know nothing of how a command line is written. A text
that would have to be expanded, or that holds more than one command, is not cut at all: characters
that could do this are refused outside quotes, also where a shell would let some of them pass. -/
namespace TestBench.Shell

/-- The quotes that are open. -/
inductive Quotes where
  | none
  | single
  | double
  deriving DecidableEq, Repr

/-- Why a text is not cut into words. -/
inductive CutFault where
  | openQuotes (quotes : Quotes)
  /-- A character stands where it does not stand for itself. -/
  | active (c : Char)
  deriving DecidableEq, Repr

/-- Whether a character may do more than stand for itself outside quotes: end a command, start
another, change a stream, start a comment, be expanded or take the meaning of the next one away. -/
def isActive (c : Char) : Bool :=
  ['\n', '|', '&', ';', '<', '>', '(', ')', '$', '\x60', '\\', '*', '?', '[', ']', '#', '~', '!',
    '\x7b', '\x7d', '^'].contains c

/-- Whether a character does not stand for itself between double quotes. -/
def isActiveQuoted (c : Char) : Bool :=
  ['$', '\x60', '\\', '!'].contains c

/-- The words of what is left of a text, with the word under way if one has begun. A pair of quotes
begins a word even if there is nothing between them. -/
def cutFrom : Quotes → Option (List Char) → List Char → Except CutFault (List (List Char))
  | .none, word, [] => .ok word.toList
  | quotes, _, [] => .error (.openQuotes quotes)
  | .none, word, c :: cs =>
    if c = ' ' ∨ c = '\t' then (cutFrom .none none cs).map (word.toList ++ ·)
    else if c = '\x27' then cutFrom .single (some (word.getD [])) cs
    else if c = '\x22' then cutFrom .double (some (word.getD [])) cs
    else if isActive c then .error (.active c)
    else cutFrom .none (some (word.getD [] ++ [c])) cs
  | .single, word, c :: cs =>
    if c = '\x27' then cutFrom .none word cs
    else cutFrom .single (some (word.getD [] ++ [c])) cs
  | .double, word, c :: cs =>
    if c = '\x22' then cutFrom .none word cs
    else if isActiveQuoted c then .error (.active c)
    else cutFrom .double (some (word.getD [] ++ [c])) cs

def cutWords (text : List Char) : Except CutFault (List (List Char)) :=
  cutFrom .none none text

theorem cutFrom_blank (word : Option (List Char)) (cs : List Char) :
    cutFrom .none word (' ' :: cs) = (cutFrom .none none cs).map (word.toList ++ ·) := by
  simp [cutFrom]

theorem cutFrom_safe {c : Char} (safe : isSafe c = true) (word : Option (List Char))
    (cs : List Char) :
    cutFrom .none word (c :: cs) = cutFrom .none (some (word.getD [] ++ [c])) cs := by
  have other (d : Char) (unsafe_ : isSafe d = false) : c ≠ d := by
    rintro rfl
    rw [safe] at unsafe_
    cases unsafe_
  have passive : isActive c = false := by
    rw [isActive, List.contains_eq_mem, decide_eq_false_iff_not]
    intro h
    -- as a test of a list: the quantifier over characters would be decided by trying them all
    have active : ['\n', '|', '&', ';', '<', '>', '(', ')', '$', '\x60', '\\', '*', '?', '[',
        ']', '#', '~', '!', '\x7b', '\x7d', '^'].all (!isSafe ·) = true := by decide
    have unsafe_ := List.all_eq_true.mp active c h
    rw [safe] at unsafe_
    cases unsafe_
  simp [cutFrom, passive, other ' ' (by decide), other '\t' (by decide), other '\x27' (by decide),
    other '\x22' (by decide)]

theorem cutFrom_safe_run {w : List Char} (safe : w.all isSafe = true) (word rest : List Char) :
    cutFrom .none (some word) (w ++ rest) = cutFrom .none (some (word ++ w)) rest := by
  induction w generalizing word with
  | nil => simp
  | cons c w ih =>
    obtain ⟨first, others⟩ := Bool.and_eq_true_iff.mp safe
    rw [List.cons_append, cutFrom_safe first, Option.getD_some, ih others, List.append_assoc,
      List.singleton_append]

theorem cutFrom_quoteChar (c : Char) (word rest : List Char) :
    cutFrom .single (some word) (quoteChar c ++ rest) =
      cutFrom .single (some (word ++ [c])) rest := by
  unfold quoteChar
  split
  · rename_i isQuote
    subst isQuote
    simp [quotedQuote, cutFrom, isActiveQuoted]
  · rename_i other
    simp [cutFrom, other]

theorem cutFrom_quoted (w word rest : List Char) :
    cutFrom .single (some word) (w.flatMap quoteChar ++ rest) =
      cutFrom .single (some (word ++ w)) rest := by
  induction w generalizing word with
  | nil => simp
  | cons c w ih =>
    rw [List.flatMap_cons, List.append_assoc, cutFrom_quoteChar, ih, List.append_assoc,
      List.singleton_append]

/-- A word as it is written begins a word and adds itself to it, whatever comes behind. -/
theorem cutFrom_quote (w rest : List Char) :
    cutFrom .none none (quote w ++ rest) = cutFrom .none (some w) rest := by
  unfold quote
  split
  · rename_i empty
    rw [List.isEmpty_iff.mp empty]
    simp [cutFrom]
  · rename_i nonempty
    split
    · rename_i safe
      cases w with
      | nil => simp at nonempty
      | cons c w =>
        obtain ⟨first, others⟩ := Bool.and_eq_true_iff.mp safe
        rw [List.cons_append, cutFrom_safe first, cutFrom_safe_run others]
        rfl
    · have between := cutFrom_quoted w [] ('\x27' :: rest)
      have closed : cutFrom .single (some w) ('\x27' :: rest) = cutFrom .none (some w) rest := by
        simp [cutFrom]
      rw [List.nil_append, closed] at between
      simpa [cutFrom] using between

theorem cutWords_join (words : List (List Char)) :
    cutWords ([' '].intercalate (words.map quote)) = .ok words := by
  unfold cutWords
  induction words with
  | nil => rfl
  | cons w words ih =>
    cases words with
    | nil =>
      have single := cutFrom_quote w []
      rw [List.append_nil] at single
      simpa [List.intercalate, cutFrom] using single
    | cons v words =>
      have joined : [' '].intercalate ((w :: v :: words).map quote) =
          quote w ++ ' ' :: [' '].intercalate ((v :: words).map quote) := by
        simp [List.intercalate]
      rw [joined, cutFrom_quote, cutFrom_blank, ih]
      rfl

/-- The command line of a test is cut into the words that it is made of, whatever characters they
hold: none is split, joined with another, expanded or left out, and no quotes stay open. -/
theorem cutWords_commandLine (tool : Tool) (t : Test) (extraArgs : List String) :
    cutWords (tool.commandLine t extraArgs).toList =
      .ok (([tool.command, tool.argsFlag ++ "=" ++ t.args, tool.targetFlag ++ "=" ++ t.path,
        tool.exitFlag] ++ tool.extraArgs ++ extraArgs).map String.toList) := by
  have written : (tool.words t extraArgs).map (fun w => quote w.toList) =
      ((tool.words t extraArgs).map String.toList).map quote := by
    rw [List.map_map]
    rfl
  rw [Tool.commandLine, commandLine, String.toList_ofList, written, cutWords_join]
  rfl

end TestBench.Shell
