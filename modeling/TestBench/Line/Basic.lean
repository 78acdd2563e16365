import TestBench.Outcome
import TestBench.Text.Blank

/-! Blanks at the end of a line do not count. What is left is empty or a comment, a definition
`!name=value`, a test line `path|args|expected|comment` whose comment may be left out, or a test
line whose path ends in a command `$(...)`. Everything else is malformed. -/
namespace TestBench

structure Fields where
  path : List Char
  args : List Char
  expected : List Char
  comment : Option (List Char)
  deriving DecidableEq, Repr

inductive Line where
  | skip
  | definition (name value : String)
  | literal (text : String)
  /-- A test line whose path is `stem` and then a command, given by its words; `rest` is the text
  after the path and the bar behind it. -/
  | expansion (stem : String) (command : List String) (rest : String)
  /-- The expectation is given if it is what is wrong with the line. -/
  | malformed (text : String) (expected : Option String)
  deriving DecidableEq, Repr

def cut (sep : Char) : List Char → List Char × Option (List Char)
  | [] => ([], none)
  | c :: cs =>
    if c = sep then ([], some cs)
    else
      let (before, after) := cut sep cs
      (c :: before, after)

def cutCommand : List Char → List Char × Option (List Char)
  | [] => ([], none)
  | '$' :: '(' :: cs => ([], some cs)
  | c :: cs =>
    let (before, after) := cutCommand cs
    (c :: before, after)

namespace Fields

/-- The fields of a text between its bars. The path is not empty, and the comment, which may hold
bars, holds no line feed. -/
def ofText? (cs : List Char) : Option Fields :=
  match cut '|' cs with
  | (_, none) => none
  | (path, some cs) =>
    match cut '|' cs with
    | (_, none) => none
    | (args, some cs) =>
      let (expected, comment) := cut '|' cs
      if path.isEmpty || (comment.getD []).contains '\n' then none
      else some { path, args, expected, comment }

def toText (f : Fields) : List Char :=
  f.path ++ '|' :: f.args ++ '|' :: f.expected ++ (f.comment.map ('|' :: ·)).getD []

end Fields

namespace Line

def content (line : String) : List Char :=
  Text.trimEnd line.toList

/-- Whether a text says nothing: it is blank, or a comment follows blanks. -/
def isSkip (cs : List Char) : Bool :=
  match cs.dropWhile Text.isBlank with
  | [] => true
  | c :: rest => c == '#' && !rest.contains '\n'

def startsName (c : Char) : Bool :=
  c.isAlpha || c == '_'

def continuesName (c : Char) : Bool :=
  c.isAlphanum || c == '_'

def isName : List Char → Bool
  | [] => false
  | c :: cs => startsName c && cs.all continuesName

def definition? (cs : List Char) : Option (List Char × List Char) :=
  match cut '=' cs with
  | (_, none) => none
  | (name, some value) =>
    if isName name && !value.contains '|' then some (name, value) else none

def isExpectation (word : List Char) : Bool :=
  ((Outcome.ofName? (String.ofList word)).map Outcome.isExpectation).getD false

/-- What a test line with valid fields says. A command ends with the first closing parenthesis, and
the path ends with it. -/
def ofFields (text : List Char) (f : Fields) : Line :=
  match cutCommand f.path with
  | (_, none) => .literal (String.ofList text)
  | (stem, some cs) =>
    match cut ')' cs with
    | (body, some []) =>
      .expansion (String.ofList stem) ((Text.words body).map String.ofList)
        (String.ofList (text.drop (f.path.length + 1)))
    | _ => .malformed (String.ofList text) none

def ofContent (text : List Char) : Line :=
  if isSkip text then .skip
  else
    match text with
    | '!' :: cs =>
      match definition? cs with
      | some (name, value) => .definition (String.ofList name) (String.ofList value)
      | none => .malformed (String.ofList text) none
    | _ =>
      match Fields.ofText? text with
      | none => .malformed (String.ofList text) none
      | some f =>
        if isExpectation f.expected then ofFields text f
        else .malformed (String.ofList text) (some (String.ofList f.expected))

def ofText (line : String) : Line :=
  ofContent (content line)

end Line

end TestBench
