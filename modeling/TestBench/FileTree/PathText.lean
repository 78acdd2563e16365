import TestBench.FileTree.Basic

/-! The form in which paths are shown: without the names that stand for the directory they are in.
What a path leads to does not change, the names for directories above are kept. -/
namespace TestBench

def tidyNames (path : String) : List String :=
  (pathNames path).filter (!FileTree.isHere ·)

/-- What an absolute path starts with: two slashes keep both, any other number is one. -/
def rootText (path : String) : String :=
  match path.toList with
  | '/' :: '/' :: '/' :: _ => "/"
  | '/' :: '/' :: _ => "//"
  | '/' :: _ => "/"
  | _ => ""

def tidyPath (path : String) : String :=
  let text := rootText path ++ "/".intercalate (tidyNames path)
  if text.isEmpty then "." else text

/-- The end of a name from its last dot on, if there is a dot that is neither its first nor its last
character. -/
def extension (name : String) : String :=
  let cs := name.toList
  let afterDot := cs.reverse.takeWhile (· ≠ '.')
  if afterDot.isEmpty ∨ cs.length ≤ afterDot.length + 1 then ""
  else String.ofList ('.' :: afterDot.reverse)

def pathExtension (path : String) : String :=
  extension ((tidyNames path).getLastD "")

end TestBench
