import TestBench.Proofs.FileTree.Names
import TestBench.Proofs.Text.Lines

/-! Text files that differ only in their layout. Nothing of the blanks at the end of a line, of the
way in which it ends or of a blank line behind all others comes into what is read, not even into the
numbers of lines in failures. -/
namespace TestBench

theorem Line.ofText_ofList (cs : List Char) :
    ofText (String.ofList cs) = ofContent (Text.trimEnd cs) := by
  rw [ofText, content, String.toList_ofList]

namespace FileReading

variable {fs : FileSystem} {source : Option String}

theorem runFrom_same {ls ms : List (List Char)} (same : Text.SameLines ls ms) (n k : Nat)
    (next : Int) (symbols : Symbols) :
    runFrom fs source n k next symbols (ms.map String.ofList) =
      runFrom fs source n k next symbols (ls.map String.ofList) := by
  induction same generalizing n k next symbols with
  | nil => rfl
  | @blank line blank =>
    have skipped : Line.ofText (String.ofList line) = .skip := by
      rw [Line.ofText_ofList, blank]
      rfl
    simp [runFrom, skipped, Line.contribution, Reading.runFrom]
  | @cons line other _ _ same _ ih =>
    have alike : Line.ofText (String.ofList other) = Line.ofText (String.ofList line) := by
      rw [Line.ofText_ofList, Line.ofText_ofList, same]
    simp only [List.map_cons, runFrom, alike, ih]

end FileReading

/-- The blanks that end no line although they set lines apart for a reader: tabulators and breaks of
pages, separators of files, groups and records, and the line ends of other conventions. -/
def Text.quietBlanks : List Char :=
  ['\x0b', '\x0c', '\x1c', '\x1d', '\x1e', '\x85', '\u2028', '\u2029']

theorem Text.isBlank_of_quiet {c : Char} (quiet : c ∈ quietBlanks) :
    isBlank c = true ∧ isBreak c = false := by
  have all_quiet : quietBlanks.all (fun c => isBlank c && !isBreak c) = true := by decide
  simpa using List.all_eq_true.mp all_quiet c quiet

section Files

variable {tree : FileTree} {path : String} {bytes : List UInt8} {text : List Char}

theorem readTextFile_of_decode (opened : openFile tree path = .ok (.bytes bytes))
    (decoded : Text.decode? bytes = some text) (fs : FileSystem) (next : Int) (symbols : Symbols) :
    readTextFile tree fs path next symbols =
      let r := FileReading.run fs (some path) next symbols
        ((Text.lines (Text.unifyBreaks text)).map String.ofList)
      ⟨r.tests, r.next, r.symbols, r.failure.map .failure⟩ := by
  simp only [readTextFile, openLines, opened, Text.ofBytes_of_decode decoded]
  split <;> simp_all

end Files

/-- A text file without carriage returns is read as it is if its line feeds are replaced by other
line ends, blanks are put behind its lines, and a line end is put behind the last one. Blanks that
end no line do not part the line they stand in. -/
theorem reading_ignores_layout :
    (∀ tree other path bytes others text laid, openFile tree path = .ok (.bytes bytes) →
      openFile other path = .ok (.bytes others) → Text.decode? bytes = some text →
      Text.decode? others = some laid → '\r' ∉ text → Text.Relaid text laid →
      ∀ fs next symbols,
        readTextFile other fs path next symbols = readTextFile tree fs path next symbols) ∧
    ∀ c ∈ Text.quietBlanks, Text.isBlank c = true ∧
      ∀ front before after back bytes, (∀ d ∈ before ++ after, Text.isBreak d = false) →
        (∀ d ∈ front.getLast?, Text.isBreak d = true) →
        (∀ d ∈ back.head?, Text.isBreak d = true) →
        Text.decode? bytes = some (front ++ (before ++ c :: after ++ back)) →
        ∃ above below, Text.LineStream.ofBytes bytes =
          ⟨(above ++ (before ++ c :: after) :: below).map String.ofList, false⟩ := by
  refine ⟨?_, ?_⟩
  · intro tree other path bytes others text laid opened opened' decoded decoded' no_return relaid fs
      next symbols
    have unified : Text.unifyBreaks text = text := by
      have whole := Text.unifyBreaks_append no_return []
      rwa [List.append_nil, Text.unifyBreaks, List.append_nil] at whole
    rw [readTextFile_of_decode opened decoded, readTextFile_of_decode opened' decoded', unified]
    simp only [FileReading.run, FileReading.runFrom_same (relaid.sameLines no_return)]
  · intro c quiet
    have blank : Text.isBlank c = true ∧ Text.isBreak c = false := Text.isBlank_of_quiet quiet
    refine ⟨blank.1, ?_⟩
    intro front before after back bytes free starts ends decoded
    have whole : ∀ d ∈ before ++ c :: after, Text.isBreak d = false := by
      intro d mem
      rcases List.mem_append.mp mem with mem | mem
      · exact free d (List.mem_append_left _ mem)
      · rcases List.mem_cons.mp mem with rfl | mem
        · exact blank.2
        · exact free d (List.mem_append_right _ mem)
    obtain ⟨above, below, found, -⟩ := Text.lines_between whole (by simp) starts ends
    exact ⟨above, below, by rw [Text.ofBytes_of_decode decoded, found]⟩

/-- Three lines of which the second is empty and the third is bad, with a line separator behind the
first, a carriage return alone after it, and all three line ends; and a page break in a line. -/
theorem reading_ignores_layout_of_three :
    let file (text : List Char) : FileTree :=
      { entries := [(["t"], .file (.bytes (Text.encode text)))] }
    let text := ['a', '|', '|', 'P', 'A', 'S', 'S', '\n', '\n', 'x']
    let laid := ['a', '|', '|', 'P', 'A', 'S', 'S', '\u2028', '\r', '\r', '\n', 'x', ' ', '\n']
    let paged := ['a', '\r', 'b', '\x0c', 'c', '\r', '\n']
    (∀ text, openFile (file text) "t" = .ok (.bytes (Text.encode text))) ∧
      Text.decode? (Text.encode text) = some text ∧ Text.decode? (Text.encode laid) = some laid ∧
      Text.Relaid text laid ∧
      (∀ fs, readTextFile (file text) fs "t" 5 {} =
        ⟨[⟨5, "a", "", .pass, "", none⟩], 6, {},
          some (.failure (.badLine "x" ⟨some "t", some 3⟩))⟩) ∧
      (∀ fs next symbols,
        readTextFile (file laid) fs "t" next symbols =
          readTextFile (file text) fs "t" next symbols) ∧
      Text.decode? (Text.encode paged) = some paged ∧
      ∃ above below, Text.LineStream.ofBytes (Text.encode paged) =
        ⟨(above ++ ['b', '\x0c', 'c'] :: below).map String.ofList, false⟩ := by
  intro file text laid paged
  have proper : ProperName "t" := by constructor <;> decide +kernel
  have opened (text : List Char) : openFile (file text) "t" = .ok (.bytes (Text.encode text)) :=
    proper.openFile_eq (by rfl) rfl
  have decoded : Text.decode? (Text.encode text) = some text := by decide +kernel
  have decoded' : Text.decode? (Text.encode laid) = some laid := by decide +kernel
  have relaid : Text.Relaid text laid := by
    have space : Text.IsPadding [' '] := List.forall_mem_singleton.mpr (by decide)
    have separator : Text.IsPadding ['\u2028'] := List.forall_mem_singleton.mpr (by decide)
    have third : Text.Relaid ['x'] ['x', ' ', '\n'] :=
      .keep (by decide) (.last space (.inr .feed))
    have second : Text.Relaid ['\n', 'x'] ['\r', '\n', 'x', ' ', '\n'] :=
      .feed (List.forall_mem_nil _) .both third
    have first := Text.Relaid.feed separator (.alone (by decide)) second
    iterate 7 refine .keep (by decide) ?_
    exact first
  have read (fs : FileSystem) : readTextFile (file text) fs "t" 5 {} =
      ⟨[⟨5, "a", "", .pass, "", none⟩], 6, {},
        some (.failure (.badLine "x" ⟨some "t", some 3⟩))⟩ := by
    have lines : (Text.lines (Text.unifyBreaks text)).map String.ofList = ["a||PASS", "", "x"] := by
      decide +kernel
    have kinds : Line.ofText "a||PASS" = .literal "a||PASS" ∧ Line.ofText "" = .skip ∧
        Line.ofText "x" = .malformed "x" none := by decide +kernel
    have tests : Reading.runFrom (some "t") 1 5 ["a||PASS"] =
        ⟨[⟨5, "a", "", .pass, "", none⟩], 6, none⟩ := by decide +kernel
    have nothing (n : Nat) (next : Int) : Reading.runFrom (some "t") n next [] = ⟨[], next, none⟩ :=
      rfl
    rw [readTextFile_of_decode (opened text) decoded, lines]
    simp [FileReading.run, FileReading.runFrom, kinds, Line.contribution, tests, nothing]
  have apart : Text.decode? (Text.encode paged) = some paged := by decide +kernel
  obtain ⟨same, kept⟩ := reading_ignores_layout
  obtain ⟨-, page⟩ := kept '\x0c' (by decide)
  have unbroken : ∀ d ∈ ['b'] ++ ['c'], Text.isBreak d = false := by simp [Text.isBreak]
  refine ⟨opened, decoded, decoded', relaid, read, ?_, apart, ?_⟩
  · exact same _ _ _ _ _ text laid (opened text) (opened laid) decoded decoded' (by decide) relaid
  · exact page ['a', '\r'] ['b'] ['c'] ['\r', '\n'] _ unbroken (by simp [Text.isBreak])
      (by simp [Text.isBreak]) apart

end TestBench
