import TestBench.Proofs.FileTree.Names
import TestBench.Proofs.Report.Elapsed
import TestBench.Proofs.Report.Lines
import TestBench.Proofs.Run.Records
import TestBench.Proofs.Suite.Load

/-! Reports that add up. All that is said of a report here is read off its lines: the sections are
found by their headings, and the counters are compared with the lines that end in their words. -/
namespace TestBench.Report

/-- The line shows a test: the id in front and the outcome at the end. -/
structure Shows (line : String) (t : Test) : Prop where
  id : lineId? line = some t.id
  word : endsIn t.resultName line = true

/-- The lines below a heading show the tests whose outcomes are of a kind, in the order of ids. -/
def Lists (title : String) (kind : Option Outcome → Bool) (left : List Test)
    (lines : List String) : Prop :=
  ∃ shown : List Test, shown.Perm (left.filter fun t => kind t.result) ∧
    shown.Pairwise (fun a b => a.id < b.id) ∧ List.Forall₂ Shows (below title lines) shown

def number (lines : List String) (word : String) : Nat :=
  lines.countP (endsIn word)

def sections (lines : List String) : List String :=
  titles.flatMap fun title => below title lines

/-- What the lines of a report owe to the tests that were given to a run and to those it left. -/
structure AddsUp (tests left : List Test) (start : Moment) (elapsed : String)
    (lines : List String) : Prop where
  given : (left.map fun t => { t with result := none }).Perm tests
  ids : ((sections lines).map lineId?).Perm (tests.map fun t => some t.id)
  once : ((sections lines).map lineId?).Nodup
  failures : Lists "FAILURES" (fun o => o == some .fail || o == some .xfail) left lines
  successes : Lists "SUCCESSES" (fun o => o == some .pass || o == some .xpass) left lines
  errors : Lists "ERRORS" Option.isNone left lines
  total : (Outcome.all.map fun o => number lines o.name).sum + number lines "ERROR" = tests.length
  layout : lines =
    [banner, "                      SUMMARY", banner,
      "Completed " ++ toString (Outcome.all.map fun o => number lines o.name).sum ++ " tests"] ++
    ((Outcome.all.filter fun o => number lines o.name != 0).map fun o =>
      o.name ++ ": " ++ toString (number lines o.name)) ++
    (if number lines "ERROR" = 0 then [] else ["ERROR: " ++ toString (number lines "ERROR") ++
      " (tool could not be launched, not included in the total)"]) ++
    ["", "Start time: " ++ start.stamp, elapsed] ++
    titles.flatMap fun title =>
      if below title lines = [] then [] else heading title :: below title lines

/-! Sections. -/

theorem heading_inj {title other : String} : heading title = heading other ↔ title = other := by
  simp [heading]

theorem below_append {title : String} {front : List String} (absent : heading title ∉ front)
    (rest : List String) : below title (front ++ rest) = below title rest := by
  have dropped : front.dropWhile (· != heading title) = [] := by
    rw [List.dropWhile_eq_nil_iff]
    intro line mem
    simp only [bne_iff_ne, ne_eq]
    rintro rfl
    exact absent mem
  rw [below, below, List.dropWhile_append, dropped, List.isEmpty_nil, if_pos rfl]

theorem below_of_absent {title : String} {lines : List String} (absent : heading title ∉ lines) :
    below title lines = [] := by
  have alone := below_append absent []
  rw [List.append_nil] at alone
  exact alone

theorem heading_not_mem_section {title other : String} (apart : title ≠ other) (ts : List Test) :
    heading title ∉ sectionLines other ts := by
  unfold sectionLines
  split
  · exact List.not_mem_nil
  · rw [List.mem_cons, not_or]
    refine ⟨fun same => apart (heading_inj.mp same), fun mem => ?_⟩
    obtain ⟨t, -, same⟩ := List.mem_map.mp mem
    exact resultLine_ne_heading t title same

theorem below_section {title : String} (ts : List Test) {rest : List String}
    (next : ∀ line ∈ rest.head?, isHeading line = true) (absent : heading title ∉ rest) :
    below title (sectionLines title ts ++ rest) = ts.map Test.resultLine := by
  cases ts with
  | nil => exact below_of_absent absent
  | cons t ts =>
    have starts : sectionLines title (t :: ts) ++ rest =
        heading title :: ((t :: ts).map Test.resultLine ++ rest) := rfl
    have ends : rest.takeWhile (!isHeading ·) = [] := by
      cases rest with
      | nil => rfl
      | cons line rest => simp [next line rfl]
    have lines : ∀ line ∈ (t :: ts).map Test.resultLine, (!isHeading line) = true := by
      intro line mem
      obtain ⟨u, -, rfl⟩ := List.mem_map.mp mem
      rw [isHeading_resultLine]
      rfl
    rw [below, starts, List.dropWhile_cons_of_neg (by simp), List.drop_one, List.tail_cons,
      List.takeWhile_append_of_pos lines, ends, List.append_nil]

theorem head?_section {title : String} (known : title ∈ titles) (ts : List Test)
    {rest : List String} (next : ∀ line ∈ rest.head?, isHeading line = true) :
    ∀ line ∈ (sectionLines title ts ++ rest).head?, isHeading line = true := by
  cases ts with
  | nil => exact next
  | cons t ts =>
    intro line first
    cases first
    exact List.any_eq_true.mpr ⟨title, known, beq_self_eq_true _⟩

theorem countP_section (title : String) (ts : List Test) {word : String} (known : word ∈ words) :
    (sectionLines title ts).countP (endsIn word) = ts.countP (·.resultName == word) := by
  have shown : (ts.map Test.resultLine).countP (endsIn word) =
      ts.countP (·.resultName == word) := by
    rw [List.countP_map]
    refine List.countP_congr fun t _ => ?_
    rw [Function.comp_apply, endsIn_resultLine t known]
  cases ts with
  | nil => rfl
  | cons t ts =>
    have starts : sectionLines title (t :: ts) =
        heading title :: (t :: ts).map Test.resultLine := rfl
    rw [starts, List.countP_cons_of_neg (by simp [endsIn_heading title known]), shown]

/-- What is found in the lines of a summary, section by section and word by word. -/
structure Found (s : Stats) (lines : List String) : Prop where
  failures : below "FAILURES" lines = s.failures.map Test.resultLine
  successes : below "SUCCESSES" lines = s.successes.map Test.resultLine
  errors : below "ERRORS" lines = s.errors.map Test.resultLine
  number : ∀ word ∈ words, number lines word =
    (s.failures ++ (s.successes ++ s.errors)).countP (·.resultName == word)

section Summary

variable {front : List String} (plain : ∀ line ∈ front, Plain line) (fs ss es : List Test)
include plain

theorem heading_not_mem_front (title : String) : heading title ∉ front :=
  fun mem => (plain _ mem).ne_heading title rfl

theorem below_summary :
    let lines := front ++ (sectionLines "FAILURES" fs ++
      (sectionLines "SUCCESSES" ss ++ (sectionLines "ERRORS" es ++ [])))
    below "FAILURES" lines = fs.map Test.resultLine ∧
      below "SUCCESSES" lines = ss.map Test.resultLine ∧
      below "ERRORS" lines = es.map Test.resultLine := by
  intro lines
  have last : ∀ line ∈ ([] : List String).head?, isHeading line = true := by simp
  have errors := head?_section (by decide : "ERRORS" ∈ titles) es last
  have successes := head?_section (by decide : "SUCCESSES" ∈ titles) ss errors
  have apart {title other : String} (h : title ≠ other) (ts : List Test) {rest : List String}
      (absent : heading title ∉ rest) : heading title ∉ sectionLines other ts ++ rest := by
    rw [List.mem_append, not_or]
    exact ⟨heading_not_mem_section h ts, absent⟩
  refine ⟨?_, ?_, ?_⟩
  · rw [below_append (heading_not_mem_front plain _), below_section fs successes]
    exact apart (by decide) ss (apart (by decide) es List.not_mem_nil)
  · rw [below_append (heading_not_mem_front plain _),
      below_append (heading_not_mem_section (by decide) fs), below_section ss errors]
    exact apart (by decide) es List.not_mem_nil
  · rw [below_append (heading_not_mem_front plain _),
      below_append (heading_not_mem_section (by decide) fs),
      below_append (heading_not_mem_section (by decide) ss), below_section es last]
    exact List.not_mem_nil

theorem number_summary {word : String} (known : word ∈ words) :
    number (front ++ (sectionLines "FAILURES" fs ++
      (sectionLines "SUCCESSES" ss ++ (sectionLines "ERRORS" es ++ [])))) word =
      (fs ++ (ss ++ es)).countP (·.resultName == word) := by
  have above : front.countP (endsIn word) = 0 := by
    rw [List.countP_eq_zero]
    intro line mem
    rw [(plain line mem).endsIn known]
    exact Bool.noConfusion
  simp only [number, List.countP_append, above, countP_section _ _ known, List.countP_nil]
  omega

theorem found_summary (s : Stats) : Found s (front ++ summaryTail s) := by
  have tail : summaryTail s = sectionLines "FAILURES" s.failures ++
      (sectionLines "SUCCESSES" s.successes ++ (sectionLines "ERRORS" s.errors ++ [])) := by
    rw [summaryTail, List.append_nil, List.append_assoc]
  rw [tail]
  obtain ⟨failures, successes, errors⟩ := below_summary plain s.failures s.successes s.errors
  exact ⟨failures, successes, errors, fun word known => number_summary plain _ _ _ known⟩

end Summary

/-! Counting. -/

theorem resultName_beq_name (t : Test) (o : Outcome) :
    (t.resultName == o.name) = (t.result == some o) := by
  unfold Test.resultName
  cases t.result with
  | none => cases o <;> decide
  | some p => cases p <;> cases o <;> decide

theorem resultName_beq_error (t : Test) : (t.resultName == "ERROR") = t.result.isNone := by
  unfold Test.resultName
  cases t.result with
  | none => decide
  | some o => cases o <;> decide

theorem partition_perm (ts : List Test) :
    (ts.filter (fun t => t.result.any Outcome.isFailure) ++
      (ts.filter (fun t => t.result.any (!·.isFailure)) ++
        ts.filter fun t => t.result.isNone)).Perm ts := by
  have failed := List.filter_append_perm (fun t => t.result.any Outcome.isFailure) ts
  have others := List.filter_append_perm (fun t => t.result.any (!·.isFailure))
    (ts.filter fun t => !t.result.any Outcome.isFailure)
  have succeeded (t : Test) : (t.result.any (!·.isFailure) && !t.result.any Outcome.isFailure) =
      t.result.any (!·.isFailure) := by
    cases t.result with
    | none => rfl
    | some o => cases o <;> rfl
  have unlaunched (t : Test) : (!t.result.any (!·.isFailure) && !t.result.any Outcome.isFailure) =
      t.result.isNone := by
    cases t.result with
    | none => rfl
    | some o => cases o <;> rfl
  simp only [List.filter_filter, succeeded, unlaunched] at others
  exact (others.append_left _).trans failed

theorem sum_countP_results (ts : List Test) :
    (Outcome.all.map fun o => ts.countP fun t => t.result == some o).sum =
      ts.countP (·.result.isSome) := by
  induction ts with
  | nil => rfl
  | cons t ts ih =>
    simp only [Outcome.all, List.map_cons, List.map_nil, List.sum_cons, List.sum_nil,
      List.countP_cons] at ih ⊢
    cases t.result with
    | none => simpa using ih
    | some o => cases o <;> simp <;> omega

theorem countP_isSome_add_isNone (ts : List Test) :
    ts.countP (·.result.isSome) + ts.countP (·.result.isNone) = ts.length := by
  induction ts with
  | nil => rfl
  | cons t ts ih => cases h : t.result <;> simp [h] <;> omega

theorem section_of_below {title : String} {lines : List String} {ts : List Test}
    (shown : below title lines = ts.map Test.resultLine) :
    sectionLines title ts =
      if below title lines = [] then [] else heading title :: below title lines := by
  rw [shown]
  cases ts with
  | nil => rfl
  | cons t ts => rfl

theorem tail_of_found {s : Stats} {lines : List String} (found : Found s lines) :
    (titles.flatMap fun title =>
      if below title lines = [] then [] else heading title :: below title lines) =
      summaryTail s := by
  simp only [titles, List.flatMap_cons, List.flatMap_nil, ← section_of_below found.failures,
    ← section_of_below found.successes, ← section_of_below found.errors, summaryTail,
    List.append_nil, List.append_assoc]

theorem isFailure_iff (o : Option Outcome) :
    (o == some .fail || o == some .xfail) = o.any Outcome.isFailure := by
  cases o with
  | none => rfl
  | some o => cases o <;> rfl

theorem isSuccess_iff (o : Option Outcome) :
    (o == some .pass || o == some .xpass) = o.any (!·.isFailure) := by
  cases o with
  | none => rfl
  | some o => cases o <;> rfl

section Records

variable {tests : List Test} {r : RunResult} {lines : List String} (records : r.Records tests)
include records

theorem ids_left : (r.tests.map Test.id).Perm (tests.map Test.id) := by
  have same := records.given.map Test.id
  rwa [List.map_map] at same

theorem sections_perm :
    (r.stats.failures ++ (r.stats.successes ++ r.stats.errors)).Perm r.tests := by
  rw [records.failures, records.successes, records.errors]
  have sorted (ts : List Test) : (Test.sortById ts).Perm ts := List.mergeSort_perm ts _
  exact ((sorted _).append ((sorted _).append (sorted _))).trans (partition_perm r.tests)

theorem lists_of_records (distinct : (tests.map Test.id).Nodup) {title : String}
    {kind : Option Outcome → Bool} {ts : List Test}
    (sorted : ts = Test.sortById (r.tests.filter fun t => kind t.result))
    (shown : below title lines = ts.map Test.resultLine) :
    Lists title kind r.tests lines := by
  have ids : ((r.tests.filter fun t => kind t.result).map Test.id).Nodup :=
    ((ids_left records).nodup_iff.mpr distinct).sublist (List.filter_sublist.map _)
  refine ⟨ts, ?_, ?_, ?_⟩
  · rw [sorted]
    exact List.mergeSort_perm _ _
  · rw [sorted]
    exact sortById_increasing ids
  · rw [shown, List.forall₂_map_left_iff]
    refine List.forall₂_same.mpr fun t _ => ⟨lineId?_resultLine t, ?_⟩
    rw [endsIn_resultLine t (resultName_mem t), beq_self_eq_true]

variable (found : Found r.stats lines)
include found

theorem number_of_records {word : String} (known : word ∈ words) :
    number lines word = r.tests.countP (·.resultName == word) := by
  rw [found.number word known]
  exact (sections_perm records).countP_eq _

theorem number_name (o : Outcome) :
    number lines o.name = r.tests.countP (·.result == some o) := by
  have known : o.name ∈ words := by cases o <;> decide
  rw [number_of_records records found known]
  exact List.countP_congr fun t _ => by rw [resultName_beq_name]

theorem number_error : number lines "ERROR" = r.tests.countP (·.result.isNone) := by
  rw [number_of_records records found (by decide)]
  exact List.countP_congr fun t _ => by rw [resultName_beq_error]

theorem sum_number :
    (Outcome.all.map fun o => number lines o.name).sum = r.tests.countP (·.result.isSome) := by
  simp only [number_name records found]
  exact sum_countP_results r.tests

theorem ids_sections : ((sections lines).map lineId?).Perm (tests.map fun t => some t.id) := by
  have all : sections lines =
      (r.stats.failures ++ (r.stats.successes ++ r.stats.errors)).map Test.resultLine := by
    simp only [sections, titles, List.flatMap_cons, List.flatMap_nil, found.failures,
      found.successes, found.errors, List.map_append, List.append_nil]
  have same := ((sections_perm records).map Test.id).trans (ids_left records)
  rw [all, List.map_map]
  simpa [Function.comp_def, lineId?_resultLine] using same.map some

theorem head_of_records (start : Moment) :
    summaryHead r.stats start =
      [banner, "                      SUMMARY", banner,
        "Completed " ++ toString (Outcome.all.map fun o => number lines o.name).sum ++ " tests"] ++
      ((Outcome.all.filter fun o => number lines o.name != 0).map fun o =>
        o.name ++ ": " ++ toString (number lines o.name)) ++
      (if number lines "ERROR" = 0 then [] else ["ERROR: " ++ toString (number lines "ERROR") ++
        " (tool could not be launched, not included in the total)"]) ++
      ["", "Start time: " ++ start.stamp] := by
  have counted (o : Outcome) : r.stats.counter o = number lines o.name := by
    rw [records.counter, number_name records found]
  have count : r.stats.count = (Outcome.all.map fun o => number lines o.name).sum := by
    rw [records.count, sum_number records found]
  have missing : r.stats.errors.length = number lines "ERROR" := by
    rw [records.errors, number_error records found, List.countP_eq_length_filter]
    exact (List.mergeSort_perm _ _).length_eq
  have empty : r.stats.errors.isEmpty = true ↔ number lines "ERROR" = 0 := by
    rw [List.isEmpty_iff, ← List.length_eq_zero_iff, missing]
  simp only [summaryHead, counterLines, errorLines, counted, count, missing, empty]

omit found in
theorem addsUp_of_records (distinct : (tests.map Test.id).Nodup) {seconds : Binary64}
    {line : String} (start : Moment) (written : elapsedLine seconds = .ok line) :
    AddsUp tests r.tests start line
      (summaryHead r.stats start ++ [line] ++ summaryTail r.stats) := by
  have plain : ∀ l ∈ summaryHead r.stats start ++ [line], Plain l := by
    intro l mem
    rcases List.mem_append.mp mem with head | elapsed
    · exact plain_head head
    · rw [List.mem_singleton.mp elapsed]
      exact plain_elapsed written
  have found := found_summary plain r.stats
  -- from here on the lines are known by what is found in them
  obtain ⟨lines, shape⟩ : ∃ lines,
      lines = summaryHead r.stats start ++ [line] ++ summaryTail r.stats := ⟨_, rfl⟩
  rw [← shape] at found ⊢
  have ids := ids_sections records found
  refine ⟨records.given, ids, ?_, ?_, ?_, ?_, ?_, ?_⟩
  · rw [ids.nodup_iff]
    simpa [Function.comp_def] using distinct.map (Option.some_injective Int)
  · refine lists_of_records records distinct ?_ found.failures
    simp only [isFailure_iff, records.failures]
  · refine lists_of_records records distinct ?_ found.successes
    simp only [isSuccess_iff, records.successes]
  · exact lists_of_records records distinct records.errors found.errors
  · rw [sum_number records found, number_error records found, countP_isSome_add_isNone]
    simpa using (ids_left records).length_eq
  · rw [tail_of_found found]
    refine shape.trans ?_
    rw [head_of_records records found start]
    simp only [List.append_assoc, List.cons_append, List.nil_append]

end Records

/-- The summary of a run over any of the tests of a suite is written and adds up if nothing stops
the run: with any number of workers and in any order of completion, and in the same way if the run
is taken move by move. -/
theorem report_accounts_for_every_test {σ : Type} (tree : FileTree) (fs : FileSystem) (next : Int)
    (files : List String) {ts : List Test}
    (chosen : ts.Sublist (Suite.load tree fs next files).tests)
    (settings : Settings) (extraArgs : List String) (exec : Executor σ) {before after : Binary64}
    {seconds : ℚ} (finite : (after.sub before).toRat? = some seconds) (start : Moment)
    {complete : List Test → List Test} (permutes : ∀ ts, (complete ts).Perm ts)
    (workers : Option Int) (w : σ) :
    let accounted := fun r : RunResult => r.stop = none →
      ∃ line lines, elapsedLine (after.sub before) = .ok line ∧
        summary r.stats start (after.sub before) = .ok lines ∧ AddsUp ts r.tests start line lines
    accounted ((RunResult.run settings extraArgs exec complete workers ts).run w).1 ∧
      ∀ (threads : Nat) (moves : List Pool.Move) (p : Pool σ),
        Pool.run settings extraArgs exec threads ts.length moves { waiting := ts, world := w } =
          some p → p.isDone = true → accounted p.outcome := by
  intro accounted
  have drawn := Suite.drawn_load tree fs next files
  have distinct : (ts.map Test.id).Nodup := drawn.nodup_of_sublist chosen
  have fresh : ∀ t ∈ ts, t.result = none := fun t mem => drawn.unrun t (chosen.subset mem)
  obtain ⟨line, written⟩ := elapsedLine_ok finite
  have account {r : RunResult} (records : r.Records ts) :
      ∃ line lines, elapsedLine (after.sub before) = .ok line ∧
        summary r.stats start (after.sub before) = .ok lines ∧
        AddsUp ts r.tests start line lines := by
    refine ⟨line, _, written, ?_, addsUp_of_records records distinct start written⟩
    rw [summary, written]
    rfl
  constructor
  · intro ended
    exact account (records_of_run (drawn.increasing.sublist chosen) fresh permutes ended)
  · intro threads moves p ran done ended
    exact account (Pool.records_of_pool distinct fresh ran done ended)

/-- Three of the four tests of a file: one fails, one passes although it should not, and the tool
cannot be started for the last. Two workers end them in the opposite order, or two at a time. -/
theorem report_accounts_for_three_of_four :
    let text := "a|x|PASS|\nb||XFAIL|why\nc|x|PASS|\nd|y|PASS|\n"
    let tree : FileTree := { entries := [(["t"], .file (.bytes (Text.encode text.toList)))] }
    let suite := Suite.load tree tree.fileSystem 1 ["t"]
    let ts : List Test := [⟨1, "a", "x", .pass, "", none⟩, ⟨2, "b", "", .xfail, "why", none⟩,
      ⟨4, "d", "y", .pass, "", none⟩]
    let exec : Executor Nat := fun command calls =>
      (.ok (if command = "rt --chow-args=x --test=a --exit-on-failure" then .exited 99 "out"
        else if command = "rt --chow-args= --test=b --exit-on-failure" then .exited 0 ""
        else .notLaunched "no tool"), calls + 1)
    let elapsed := Binary64.zero.sub Binary64.zero
    let start : Moment := ⟨⟨2024, 1, 1⟩, 0, 0, 0, 0, none⟩
    let r := ((RunResult.run {} [] exec List.reverse (some 2) ts).run 0).1
    let moves : List Pool.Move := [.start, .start, .finish 1, .collect 0, .start, .finish 0,
      .finish 0, .collect 1, .collect 0]
    let ended := Pool.run {} [] exec 2 3 moves { waiting := ts, world := 0 }
    ts.Sublist suite.tests ∧ elapsed.toRat? = some 0 ∧ (∀ us : List Test, us.reverse.Perm us) ∧
      r.stop = none ∧ r.tests.map Test.result = [none, some .xpass, some .fail] ∧
      (∃ line lines, elapsedLine elapsed = .ok line ∧ summary r.stats start elapsed = .ok lines ∧
        AddsUp ts r.tests start line lines) ∧
      ∃ p line lines, ended = some p ∧ p.outcome.tests.map Test.result =
          [some .xpass, none, some .fail] ∧
        summary p.outcome.stats start elapsed = .ok lines ∧
        AddsUp ts p.outcome.tests start line lines := by
  intro text tree suite ts exec elapsed start r moves ended
  have proper : ProperName "t" := by constructor <;> decide +kernel
  have opened : openFile tree "t" = .ok (.bytes (Text.encode text.toList)) :=
    proper.openFile_eq (by decide +kernel) rfl
  have lines : Text.LineStream.ofBytes (Text.encode text.toList) =
      ⟨["a|x|PASS|", "b||XFAIL|why", "c|x|PASS|", "d|y|PASS|"], false⟩ := by decide +kernel
  have tests : suite.tests = [⟨1, "a", "x", .pass, "", none⟩, ⟨2, "b", "", .xfail, "why", none⟩,
      ⟨3, "c", "x", .pass, "", none⟩, ⟨4, "d", "y", .pass, "", none⟩] := by
    have named : ¬ pathExtension "t" = Suite.scriptExtension := by decide +kernel
    simp only [suite, Suite.load_cons, Suite.load_nil, Suite.loadFile, named, if_false,
      proper.tidyPath_eq, readTextFile, openLines, opened, lines]
    rfl
  have chosen : ts.Sublist suite.tests := by
    rw [tests]
    decide
  have finite : elapsed.toRat? = some 0 := by decide +kernel
  have told := report_accounts_for_every_test tree tree.fileSystem 1 ["t"] chosen {} [] exec finite
    start List.reverse_perm (some 2) 0
  have goesOn : r.stop = none := by decide +kernel
  have moved : ended.isSome = true := by decide +kernel
  obtain ⟨p, ran⟩ := Option.isSome_iff_exists.mp moved
  have last : ended.map (fun p =>
      (p.isDone, p.outcome.stop.isNone, p.outcome.tests.map Test.result)) =
      some (true, true, [some .xpass, none, some .fail]) := by decide +kernel
  rw [ran] at last
  simp only [Option.map_some, Option.some.injEq, Prod.mk.injEq] at last
  obtain ⟨done, unstopped, results⟩ := last
  obtain ⟨line, report, -, written, addsUp⟩ :=
    told.2 2 moves p ran done (Option.isNone_iff_eq_none.mp unstopped)
  exact ⟨chosen, finite, List.reverse_perm, goesOn, by decide +kernel, told.1 goesOn, p, line,
    report, ran, results, written, addsUp⟩

end TestBench.Report
