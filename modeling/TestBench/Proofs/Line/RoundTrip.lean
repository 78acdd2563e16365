import TestBench.Proofs.FileTree.Names
import TestBench.Proofs.Line.Declaration
import TestBench.Proofs.Report.Lines

/-! Tests written as lines and read back. What is written has a comment field, so a line that
leaves it out comes back with one more bar and every other line comes back as its own text. The two
directions meet at the fields of a test: reading settles them, and they settle the line. -/
namespace TestBench

/-- The bar that a text lacks to have a comment field. -/
def Line.closing (cs : List Char) : List Char :=
  if cs.count '|' = 2 then ['|'] else []

theorem Line.isComment_append_bar {cs : List Char} (bar : '|' ∈ cs) :
    Line.IsComment (cs ++ ['|']) ↔ Line.IsComment cs := by
  constructor
  · rintro ⟨blanks, text, split, blank, line⟩
    rcases List.append_eq_append_iff.mp split with ⟨front, rfl, -⟩ | ⟨mark, rfl, rest⟩
    · -- a mark behind `cs` would have the bars of `cs` among the blanks before it
      exact absurd (blank '|' (List.mem_append_left _ bar)) (by decide)
    · cases mark with
      | nil => cases rest
      | cons c mark =>
        obtain ⟨rfl, rfl⟩ := List.cons.inj rest
        exact ⟨blanks, mark, rfl, blank, fun mem => line (List.mem_append_left _ mem)⟩
  · rintro ⟨blanks, text, rfl, blank, line⟩
    refine ⟨blanks, text ++ ['|'], by simp, blank, ?_⟩
    simpa using line

theorem Line.isSkip_append_closing {cs : List Char} (bar : '|' ∈ cs) :
    Line.isSkip (cs ++ Line.closing cs) = Line.isSkip cs := by
  unfold Line.closing
  split
  · rw [Bool.eq_iff_iff, isSkip_of_bar bar, isSkip_of_bar (List.mem_append_left _ bar),
      isComment_append_bar bar]
  · rw [List.append_nil]

namespace Fields

variable {f : Fields}

/-- The fields with a comment, empty if there was none. -/
def closed (f : Fields) : Fields :=
  { f with comment := some (f.comment.getD []) }

theorem count_bar_toText (valid : f.Valid) : f.toText.count '|' = 2 ↔ f.comment = none := by
  have path := List.count_eq_zero.mpr valid.path
  have args := List.count_eq_zero.mpr valid.args
  have expected := List.count_eq_zero.mpr valid.expected
  cases comment : f.comment with
  | none => simp [toText, comment, path, args, expected]
  | some cs => simp [toText, comment, path, args, expected]

theorem toText_closed (valid : f.Valid) : f.closed.toText = f.toText ++ Line.closing f.toText := by
  simp only [Line.closing, count_bar_toText valid]
  cases comment : f.comment with
  | none => simp [closed, toText, comment]
  | some cs => simp [closed, toText, comment]

theorem trimEnd_toText {comment : List Char} (given : f.comment = some comment)
    (ended : ∀ c ∈ comment.getLast?, Text.isBlank c = false) :
    Text.trimEnd f.toText = f.toText := by
  have kept := Text.trimEnd_of_last ended
  rw [toText, given, Option.map_some, Option.getD_some, Text.trimEnd_append_cons (by decide), kept]

theorem ended_of_trimEnd (trimmed : Text.trimEnd f.toText = f.toText) :
    ∀ c ∈ (f.comment.getD []).getLast?, Text.isBlank c = false := by
  obtain ⟨-, -, -, last⟩ := Text.trimEnd_splits f.toText
  rw [trimmed] at last
  cases comment : f.comment with
  | none => simp
  | some cs =>
    intro c mem
    refine last c ?_
    have some_last : cs.getLast? = some c := mem
    simp [toText, comment, List.getLast?_append, List.getLast?_cons, some_last]

end Fields

namespace Test

variable {t : Test} {id : Int} {origin : Origin} {line : String} {f : Fields}

def fields (t : Test) : Fields :=
  ⟨t.path.toList, t.args.toList, t.expected.name.toList, some t.comment.toList⟩

/-- A line can say what the test is. -/
structure Writable (t : Test) : Prop where
  path_ne_empty : t.path ≠ ""
  path : '|' ∉ t.path.toList
  args : '|' ∉ t.args.toList
  expected : t.expected.isExpectation = true
  comment : '\n' ∉ t.comment.toList
  ended : ∀ c ∈ t.comment.toList.getLast?, Text.isBlank c = false

theorem toList_line (t : Test) : t.line.toList = t.fields.toText := by
  simp [line, fields, Fields.toText]

theorem ofFields_fields (t : Test) (id : Int) :
    ofFields id t.fields = { t with id, result := none } := by
  have named : (ofFields id t.fields).expected = t.expected := expected_ofFields id rfl
  simp only [ofFields, fields, String.ofList_toList, Option.getD_some] at named ⊢
  rw [named]

theorem ofFields_closed (id : Int) (f : Fields) : ofFields id f.closed = ofFields id f := rfl

theorem fields_ofFields (id : Int) (proper : Line.isExpectation f.expected = true) :
    (ofFields id f).fields = f.closed := by
  obtain ⟨o, -, named⟩ := Line.isExpectation_iff.mp proper
  rw [fields, expected_ofFields id named, ← named]
  simp [ofFields, Fields.closed]

namespace Writable

theorem valid (writable : t.Writable) : t.fields.Valid where
  path_ne_nil := by simpa [fields] using writable.path_ne_empty
  path := writable.path
  args := writable.args
  expected := Declaration.bar_not_mem_name t.expected
  comment := writable.comment

theorem content_line (writable : t.Writable) : Line.content t.line = t.fields.toText := by
  rw [Line.content, toList_line]
  exact Fields.trimEnd_toText rfl writable.ended

theorem proper (writable : t.Writable) : Line.isExpectation t.fields.expected = true :=
  Line.isExpectation_iff.mpr ⟨t.expected, writable.expected, rfl⟩

theorem ofLine_line (writable : t.Writable) (id : Int) (origin : Origin) :
    ofLine id origin t.line = .ok { t with id, result := none } := by
  refine ofLine_eq_ok_iff.mpr ⟨t.fields, ?_, writable.proper, (ofFields_fields t id).symm⟩
  rw [writable.content_line]
  exact Fields.ofText?_toText writable.valid

end Writable

section Read

variable (read : Fields.ofText? (Line.content line) = some f)
  (proper : Line.isExpectation f.expected = true)
include read proper

theorem writable_ofFields (id : Int) : (ofFields id f).Writable := by
  obtain ⟨valid, written⟩ := Fields.ofText?_eq_some_iff.mp read
  obtain ⟨o, declarable, named⟩ := Line.isExpectation_iff.mp proper
  have trimmed : Text.trimEnd f.toText = f.toText := by
    rw [written, Line.trimEnd_content]
  constructor
  · simpa [ofFields] using valid.path_ne_nil
  · simpa [ofFields] using valid.path
  · simpa [ofFields] using valid.args
  · rwa [expected_ofFields id named]
  · simpa [ofFields] using valid.comment
  · simpa [ofFields] using Fields.ended_of_trimEnd trimmed

theorem line_ofFields (id : Int) :
    (ofFields id f).line.toList = Line.content line ++ Line.closing (Line.content line) := by
  obtain ⟨valid, written⟩ := Fields.ofText?_eq_some_iff.mp read
  rw [toList_line, fields_ofFields id proper, Fields.toText_closed valid, written]

theorem content_line_ofFields (id : Int) :
    Line.content (ofFields id f).line = Line.content line ++ Line.closing (Line.content line) := by
  rw [(writable_ofFields read proper id).content_line, ← toList_line,
    line_ofFields read proper id]

theorem isSkip_line_ofFields (id : Int) :
    Line.isSkip (Line.content (ofFields id f).line) = Line.isSkip (Line.content line) := by
  have bar : '|' ∈ Line.content line := by
    rw [← (Fields.ofText?_eq_some_iff.mp read).2]
    simp [Fields.toText]
  rw [content_line_ofFields read proper, Line.isSkip_append_closing bar]

end Read

theorem reads_line (reads : Line.Reads line f) (id : Int) :
    Line.Reads (ofFields id f).line f.closed := by
  have writable := writable_ofFields reads.fields reads.proper id
  have same := fields_ofFields id reads.proper
  constructor
  · rw [isSkip_line_ofFields reads.fields reads.proper, reads.kept]
  · rw [writable.content_line, Fields.ofText?_toText writable.valid, same]
  · exact reads.proper

theorem run_line (reads : Line.Reads line f) (source : Option String) (k : Nat) (id next : Int) :
    Reading.runFrom source k next [(ofFields id f).line] =
      ⟨[ofFields next f], next + 1, none⟩ := by
  rw [Reading.runFrom_of_reads (.cons (reads_line reads id) .nil)]
  simp [numbered, ofFields_closed]

theorem ofText_line {text : String} (literal : Line.ofText line = .literal text)
    (reads : Line.Reads line f) (id : Int) :
    Line.ofText (ofFields id f).line = .literal (ofFields id f).line := by
  have again := reads_line reads id
  obtain ⟨valid, written⟩ := Fields.ofText?_eq_some_iff.mp again.fields
  have whole : String.ofList (Line.content (ofFields id f).line) = (ofFields id f).line := by
    rw [← written, ← fields_ofFields id reads.proper, ← toList_line, String.ofList_toList]
  cases Line.ofContent_eq_iff.mp literal with
  | @literal g fields declarable plain =>
    obtain rfl : f = g := Fields.toText_inj (Fields.ofText?_eq_some_iff.mp reads.fields).1
      fields.valid ((Fields.ofText?_eq_some_iff.mp reads.fields).2.trans fields.written.symm)
    have kept : ¬ Line.SaysNothing (Line.content (ofFields id f).line) := by
      rw [← Line.isSkip_iff_saysNothing, again.kept]
      exact Bool.false_ne_true
    have unmarked : (Line.content (ofFields id f).line).head? ≠ some '!' := by
      have mark := fields.unmarked
      rw [← fields.written, Fields.toText_eq,
        List.head?_append_of_ne_nil _ fields.valid.path_ne_nil] at mark
      rwa [← written, Fields.toText_eq, List.head?_append_of_ne_nil _ valid.path_ne_nil]
    have rule := Line.Grammar.literal ⟨kept, unmarked, valid, written⟩ declarable plain
    rw [whole] at rule
    exact Line.ofContent_of_grammar rule

theorem run_literal_line {text : String} (literal : Line.ofText line = .literal text)
    (reads : Line.Reads line f) (fs : FileSystem) (source : Option String) (id : Int)
    (symbols : Symbols) :
    FileReading.run fs source id symbols [(ofFields id f).line] =
      ⟨[ofFields id f], id + 1, symbols, none⟩ := by
  have contributed : (Line.ofText (ofFields id f).line).contribution fs ⟨source, some 1⟩ =
      .ok (.lines [(ofFields id f).line]) := by
    rw [ofText_line literal reads id]
    rfl
  rw [FileReading.run, FileReading.runFrom_lines contributed (.cons (reads_line reads id) .nil)]
  simp [FileReading.runFrom, numbered, ofFields_closed]

section Sources

variable {source : Option String} {k n : Nat} {next : Int} {lines : List String}

theorem reads_of_mem_reading (mem : t ∈ (Reading.runFrom source k next lines).tests) :
    ∃ line f, Line.Reads line f ∧ t = ofFields t.id f := by
  induction lines generalizing k next with
  | nil => cases mem
  | cons line lines ih =>
    simp only [Reading.runFrom] at mem
    split at mem
    · exact ih mem
    · rename_i kept
      split at mem
      · cases mem
      · rename_i first read
        obtain ⟨f, fields, proper, rfl⟩ := ofLine_eq_ok_iff.mp read
        rcases List.mem_cons.mp mem with rfl | later
        · exact ⟨line, f, ⟨by simpa using kept, fields, proper⟩, rfl⟩
        · exact ih later

theorem reads_of_mem_fileReading {fs : FileSystem} {symbols : Symbols}
    (mem : t ∈ (FileReading.runFrom fs source n k next symbols lines).tests) :
    ∃ line f, Line.Reads line f ∧ t = ofFields t.id f := by
  induction lines generalizing n k next symbols with
  | nil => cases mem
  | cons line lines ih =>
    simp only [FileReading.runFrom] at mem
    split at mem
    · cases mem
    · exact ih mem
    · split at mem
      · exact reads_of_mem_reading mem
      · rcases List.mem_append.mp mem with here | later
        · exact reads_of_mem_reading here
        · exact ih later

theorem reads_of_mem_textFile {tree : FileTree} {fs : FileSystem} {path : String}
    {symbols : Symbols} (mem : t ∈ (readTextFile tree fs path next symbols).tests) :
    ∃ line f, Line.Reads line f ∧ t = ofFields t.id f := by
  unfold readTextFile at mem
  split at mem
  · cases mem
  · exact reads_of_mem_fileReading mem

end Sources

end Test

/-- Writing a test and reading a line are inverse: a line that is read comes back as it stands
without the blanks at its end, with a bar more if it had no comment field, and a test that a line
can say comes back with its fields. So a literal line gives a test whose own line is literal and is
read as this test, and so is what a listing shows, behind the id, of a test from a text file. -/
theorem reading_inverts_writing :
    (∀ (id : Int) (origin : Origin) (line : String) (t : Test),
      Test.ofLine id origin line = .ok t →
        t.line.toList = Line.content line ++ Line.closing (Line.content line) ∧
        t.listing = toString id ++ "|" ++ t.line ∧ t.Writable) ∧
    (∀ (id : Int) (origin : Origin) (t : Test), t.Writable →
      Test.ofLine id origin t.line = .ok { t with id, result := none }) ∧
    (∀ line text, Line.ofText line = .literal text → ∀ (id : Int) (origin : Origin), ∃ t,
      Test.ofLine id origin line = .ok t ∧ Test.ofLine id origin text = .ok t ∧
        t.line.toList = text.toList ++ Line.closing text.toList ∧
        ∀ fs source symbols, FileReading.run fs source id symbols [t.line] =
          ⟨[t], id + 1, symbols, none⟩) ∧
    ∀ tree fs path next symbols, ∀ t ∈ (readTextFile tree fs path next symbols).tests,
      ∃ text, cut '|' t.listing.toList = ((toString t.id).toList, some text) ∧
        ∀ source id, Reading.run source id [String.ofList text] =
          ⟨[{ t with id }], id + 1, none⟩ := by
  refine ⟨?_, ?_, ?_, ?_⟩
  · intro id origin line t read
    obtain ⟨f, fields, proper, rfl⟩ := ofLine_eq_ok_iff.mp read
    exact ⟨Test.line_ofFields fields proper id, rfl, Test.writable_ofFields fields proper id⟩
  · intro id origin t writable
    exact writable.ofLine_line id origin
  · intro line text literal id origin
    obtain ⟨f, fields, reads⟩ := reads_literal literal
    have direct : Line.Reads line f := ⟨(Line.ofText_literal literal).1, fields, reads.proper⟩
    have said : Line.content text = Line.content line := by
      rw [← (Fields.ofText?_eq_some_iff.mp reads.fields).2,
        (Fields.ofText?_eq_some_iff.mp fields).2]
    refine ⟨.ofFields id f, ?_, ?_, ?_, ?_⟩
    · exact ofLine_eq_ok_iff.mpr ⟨f, fields, reads.proper, rfl⟩
    · exact ofLine_eq_ok_iff.mpr ⟨f, reads.fields, reads.proper, rfl⟩
    · rw [Test.line_ofFields fields reads.proper, (Line.ofText_literal literal).2.1,
        String.toList_ofList]
    · intro fs source symbols
      exact Test.run_literal_line literal direct fs source id symbols
  · intro tree fs path next symbols t mem
    obtain ⟨line, f, reads, same⟩ := Test.reads_of_mem_textFile mem
    refine ⟨t.line.toList, ?_, ?_⟩
    · rw [Test.listing, String.toList_append, String.toList_append, List.append_assoc]
      exact cut_append (Report.bar_not_mem_id t.id) t.line.toList
    · intro source id
      rw [same, String.ofList_toList, Reading.run, Test.run_line reads source 1 t.id id]
      rfl

/-- A line without a comment field and with blanks at its end, and a comment that holds bars. -/
theorem reading_inverts_writing_of_bars :
    let line := "d/x||XFAIL \t"
    let tree : FileTree := { entries := [(["t"], .file (.bytes (Text.encode line.toList)))] }
    let t : Test := ⟨3, "d/x", "", .xfail, "", none⟩
    let noted : Test := ⟨4, "# d", " ", .pass, "|PASS| c|", some .fail⟩
    Test.ofLine 3 {} line = .ok t ∧ t.line.toList = "d/x||XFAIL".toList ++ ['|'] ∧
      t.listing = toString (3 : Int) ++ "|" ++ t.line ∧ t.Writable ∧
      noted.Writable ∧ Test.ofLine 9 {} noted.line = .ok { noted with id := 9, result := none } ∧
      Line.ofText line = .literal "d/x||XFAIL" ∧
      FileReading.run tree.fileSystem none 3 {} [t.line] = ⟨[t], 4, {}, none⟩ ∧
      t ∈ (readTextFile tree tree.fileSystem "t" 3 {}).tests ∧
      ∃ text, cut '|' t.listing.toList = ((toString t.id).toList, some text) ∧
        Reading.run none 8 [String.ofList text] = ⟨[{ t with id := 8 }], 9, none⟩ := by
  intro line tree t noted
  have read : Test.ofLine 3 {} line = .ok t := by decide +kernel
  have literal : Line.ofText line = .literal "d/x||XFAIL" := by decide +kernel
  have writable : noted.Writable := by
    have ends : noted.comment.toList.getLast? = some '|' := by decide +kernel
    refine ⟨by decide, by decide, by decide, rfl, by decide, ?_⟩
    intro c last
    cases ends.symm.trans last
    decide
  have proper : ProperName "t" := by constructor <;> decide +kernel
  have opened : openFile tree "t" = .ok (.bytes (Text.encode line.toList)) :=
    proper.openFile_eq (by decide +kernel) rfl
  have lines : Text.LineStream.ofBytes (Text.encode line.toList) = ⟨[line], false⟩ := by
    decide +kernel
  have mem : t ∈ (readTextFile tree tree.fileSystem "t" 3 {}).tests := by
    simp only [readTextFile, openLines, opened, lines, FileReading.run, FileReading.runFrom,
      literal, Line.contribution]
    decide +kernel
  obtain ⟨written, rewritten, from_literal, from_file⟩ := reading_inverts_writing
  obtain ⟨line_eq, listed, readable⟩ := written 3 {} line t read
  obtain ⟨u, direct, -, -, alone⟩ := from_literal line "d/x||XFAIL" literal 3 {}
  obtain rfl : t = u := Except.ok.inj (read.symm.trans direct)
  obtain ⟨text, behind, again⟩ := from_file tree tree.fileSystem "t" 3 {} t mem
  have content : Line.content line ++ Line.closing (Line.content line) =
      "d/x||XFAIL".toList ++ ['|'] := by decide +kernel
  exact ⟨read, line_eq.trans content, listed, readable, writable, rewritten 9 {} noted writable,
    literal, alone _ none {}, mem, text, behind, again none 8⟩

end TestBench
