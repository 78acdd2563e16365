import Mathlib
import TestBench.Proofs.Line.Fields
import TestBench.Report.Summary

/-! The lines of a summary, read back as they are printed: the lines under a heading, the id at the
front of a line and the word at its end. The last characters of the lines tell headings and the
lines of tests from each other and from all others. -/
namespace TestBench.Report

def heading (title : String) : String :=
  "---- " ++ title ++ " ----"

def titles : List String := ["FAILURES", "SUCCESSES", "ERRORS"]

def isHeading (line : String) : Bool :=
  titles.any fun title => line == heading title

/-- The lines below a heading, up to the next one. -/
def below (title : String) (lines : List String) : List String :=
  ((lines.dropWhile (· != heading title)).drop 1).takeWhile (!isHeading ·)

/-- The id in front of the first bar. -/
def lineId? (line : String) : Option Int :=
  (String.ofList (cut '|' line.toList).1).toInt?

def words : List String := Outcome.all.map Outcome.name ++ ["ERROR"]

/-- Whether the line ends in the word, with dashes in front of it. -/
def endsIn (word line : String) : Bool :=
  ("--- " ++ word).toList.isSuffixOf line.toList

/-! The id. -/

theorem isDigit_of_mem_repr {n : Nat} {c : Char} (mem : c ∈ (toString n).toList) :
    c.isDigit = true := by
  rw [Nat.toString_eq_repr, Nat.toList_repr] at mem
  exact Nat.isDigit_of_mem_toDigits (by decide) (by decide) mem

theorem bar_not_mem_id (n : Int) : '|' ∉ (toString n).toList := by
  have digits (m : Nat) : '|' ∉ (toString m).toList := fun mem =>
    absurd (isDigit_of_mem_repr mem) (by decide)
  cases n with
  | ofNat m => exact digits m
  | negSucc m =>
    have minus : toString (Int.negSucc m) = "-" ++ toString (m + 1) := rfl
    rw [minus, String.toList_append, List.mem_append, not_or]
    exact ⟨by decide, digits (m + 1)⟩

theorem lineId?_resultLine (t : Test) : lineId? t.resultLine = some t.id := by
  have text : t.resultLine.toList = (toString t.id).toList ++ '|' ::
      (t.path ++ "|" ++ t.args ++ "|" ++ t.comment ++ " --- " ++ t.resultName).toList := by
    simp [Test.resultLine]
  rw [lineId?, text, cut_append (bar_not_mem_id t.id), String.ofList_toList, Int.toString_eq_repr]
  exact Int.toInt?_repr t.id

/-! The word. -/

theorem resultName_mem (t : Test) : t.resultName ∈ words := by
  unfold Test.resultName
  cases t.result with
  | none => decide
  | some o => cases o <;> decide

theorem words_apart : ∀ v ∈ words, ∀ w ∈ words,
    ("--- " ++ v).toList <:+ ("--- " ++ w).toList → v = w := by
  decide

theorem endsIn_resultLine (t : Test) {word : String} (known : word ∈ words) :
    endsIn word t.resultLine = (t.resultName == word) := by
  have ending : ("--- " ++ t.resultName).toList <:+ t.resultLine.toList := by
    refine ⟨(toString t.id ++ "|" ++ t.path ++ "|" ++ t.args ++ "|" ++ t.comment ++ " ").toList, ?_⟩
    simp [Test.resultLine]
  rw [Bool.eq_iff_iff, endsIn, List.isSuffixOf_iff_suffix, beq_iff_eq]
  constructor
  · intro other
    rcases List.suffix_or_suffix_of_suffix ending other with shorter | longer
    · exact words_apart _ (resultName_mem t) _ known shorter
    · exact (words_apart _ known _ (resultName_mem t) longer).symm
  · rintro rfl
    exact ending

/-! The last character. -/

def last? (line : String) : Option Char :=
  line.toList.getLast?

/-- The line ends neither as a heading does nor as the line of a test. -/
def Plain (line : String) : Prop :=
  ∀ c, last? line = some c → c ∉ ['S', 'L', 'R', '-']

theorem last?_append (s : String) {t : String} (some_text : t ≠ "") :
    last? (s ++ t) = last? t := by
  rw [last?, String.toList_append]
  apply List.getLast?_append_of_ne_nil
  simpa using some_text

theorem last?_of_endsIn {word line : String} (known : word ∈ words)
    (ends : endsIn word line = true) : ∃ c ∈ ['S', 'L', 'R'], last? line = some c := by
  obtain ⟨front, text⟩ := List.isSuffixOf_iff_suffix.mp ends
  have letters : ∀ w ∈ words, w ≠ "" ∧ (last? w).any (['S', 'L', 'R'].contains ·) = true := by
    decide
  obtain ⟨some_word, letter⟩ := letters word known
  obtain ⟨c, last, one⟩ := (Option.any_eq_true _ _).mp letter
  refine ⟨c, List.contains_iff_mem.mp one, ?_⟩
  have ending : last? ("--- " ++ word) = some c := by rw [last?_append _ some_word, last]
  rw [last?, ← text, List.getLast?_append_of_ne_nil _ (by simp)]
  exact ending

theorem last?_heading (title : String) : last? (heading title) = some '-' := by
  rw [heading, last?_append _ (by decide)]
  decide

theorem endsIn_heading (title : String) {word : String} (known : word ∈ words) :
    endsIn word (heading title) = false := by
  by_contra ends
  obtain ⟨c, letter, last⟩ := last?_of_endsIn known (Bool.of_not_eq_false ends)
  rw [last?_heading] at last
  cases last
  revert letter
  decide

theorem resultLine_ne_heading (t : Test) (title : String) : t.resultLine ≠ heading title := by
  intro same
  have ends : endsIn t.resultName t.resultLine = true := by
    rw [endsIn_resultLine t (resultName_mem t), beq_self_eq_true]
  rw [same, endsIn_heading title (resultName_mem t)] at ends
  cases ends

theorem isHeading_resultLine (t : Test) : isHeading t.resultLine = false := by
  simp [isHeading, resultLine_ne_heading]

section Plain

variable {line : String} (plain : Plain line)
include plain

theorem Plain.endsIn {word : String} (known : word ∈ words) : endsIn word line = false := by
  by_contra ends
  obtain ⟨c, letter, last⟩ := last?_of_endsIn known (Bool.of_not_eq_false ends)
  have other := plain c last
  simp only [List.mem_cons, List.not_mem_nil, or_false, not_or] at letter other
  tauto

theorem Plain.ne_heading (title : String) : line ≠ heading title := by
  rintro rfl
  exact absurd (plain '-' (last?_heading title)) (by decide)

end Plain

theorem plain_of_last {line : String} {c : Char} (last : last? line = some c)
    (other : c ∉ ['S', 'L', 'R', '-']) : Plain line := by
  intro d found
  rw [last] at found
  cases found
  exact other

theorem plain_append (s : String) {t : String} (some_text : t ≠ "") (plain : Plain t) :
    Plain (s ++ t) := by
  rwa [Plain, last?_append s some_text]

theorem plain_of_digits {line : String} (digits : ∀ c ∈ line.toList, c.isDigit = true) :
    Plain line := by
  intro c last mem
  have digit := digits c (List.mem_of_getLast? last)
  simp only [List.mem_cons, List.not_mem_nil, or_false] at mem
  rcases mem with rfl | rfl | rfl | rfl <;> cases digit

theorem plain_number (s : String) (n : Nat) : Plain (s ++ toString n) := by
  refine plain_append s ?_ (plain_of_digits fun c mem => isDigit_of_mem_repr mem)
  intro empty
  have digits := congrArg String.toList empty
  rw [Nat.toString_eq_repr, Nat.toList_repr] at digits
  exact Nat.toDigits_ne_nil digits

theorem plain_padded (s : String) (width n : Nat) : Plain (s ++ padded width n) := by
  have text : (padded width n).toList =
      List.replicate (width - (Nat.toDigits 10 n).length) '0' ++ Nat.toDigits 10 n := by
    rw [padded, String.toList_ofList]
  refine plain_append s ?_ (plain_of_digits fun c mem => ?_)
  · intro empty
    rw [empty] at text
    exact Nat.toDigits_ne_nil (List.append_eq_nil_iff.mp text.symm).2
  · rw [text] at mem
    rcases List.mem_append.mp mem with zero | digit
    · rw [List.eq_of_mem_replicate zero]
      rfl
    · exact Nat.isDigit_of_mem_toDigits (by decide) (by decide) digit

theorem plain_head {s : Stats} {start : Moment} {line : String}
    (mem : line ∈ summaryHead s start) : Plain line := by
  simp only [summaryHead, List.mem_append, List.mem_cons, List.not_mem_nil, or_false] at mem
  rcases mem with ((((rfl | rfl | rfl | rfl) | counter) | error) | rfl | rfl)
  · exact plain_of_last (c := '*') (by decide +kernel) (by decide)
  · exact plain_of_last (c := 'Y') (by decide +kernel) (by decide)
  · exact plain_of_last (c := '*') (by decide +kernel) (by decide)
  · exact plain_append _ (by decide) (plain_of_last (c := 's') (by decide +kernel) (by decide))
  · obtain ⟨o, -, rfl⟩ := List.mem_map.mp counter
    exact plain_number _ _
  · unfold errorLines at error
    split at error
    · cases error
    · rw [List.mem_singleton.mp error]
      exact plain_append _ (by decide) (plain_of_last (c := ')') (by decide +kernel) (by decide))
  · intro c last
    cases last
  · simp only [Moment.stamp, Moment.clock, ← String.append_assoc]
    exact plain_padded _ 2 _

theorem plain_elapsed {seconds : Binary64} {line : String}
    (written : elapsedLine seconds = .ok line) : Plain line := by
  unfold elapsedLine at written
  cases whole : wholeNumber (seconds.divMod 60).1 with
  | error f =>
    simp only [whole] at written
    cases written
  | ok minutes =>
    simp only [whole] at written
    cases written
    exact plain_append _ (by decide) (plain_of_last (c := 's') (by decide +kernel) (by decide))

end TestBench.Report
