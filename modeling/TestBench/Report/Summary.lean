import TestBench.Report.Elapsed
import TestBench.Run.Stats

/-! The summary of a run and the listing of tests, as the lines that are written. -/
namespace TestBench.Report

def banner : String := String.ofList (List.replicate 57 '*')

/-- The lines of the counters that are not zero. -/
def counterLines (s : Stats) : List String :=
  (Outcome.all.filter fun o => s.counter o != 0).map fun o =>
    o.name ++ ": " ++ toString (s.counter o)

def errorLines (s : Stats) : List String :=
  if s.errors.isEmpty then []
  else
    ["ERROR: " ++ toString s.errors.length ++
      " (tool could not be launched, not included in the total)"]

/-- A section with a line for each test; one without tests is left out. -/
def sectionLines (title : String) (tests : List Test) : List String :=
  if tests.isEmpty then [] else ("---- " ++ title ++ " ----") :: tests.map Test.resultLine

def summaryHead (s : Stats) (start : Moment) : List String :=
  [banner, "                      SUMMARY", banner, "Completed " ++ toString s.count ++ " tests"] ++
    counterLines s ++ errorLines s ++ ["", "Start time: " ++ start.stamp]

def summaryTail (s : Stats) : List String :=
  sectionLines "FAILURES" s.failures ++ sectionLines "SUCCESSES" s.successes ++
    sectionLines "ERRORS" s.errors

def summary (s : Stats) (start : Moment) (elapsed : Binary64) : Except Fault (List String) := do
  return summaryHead s start ++ [← elapsedLine elapsed] ++ summaryTail s

def listing (tests : List Test) : List String :=
  tests.map Test.listing

end TestBench.Report
