import TestBench.Text.Digit
import TestBench.Yaml.Character
import TestBench.Yaml.Flaw

/-! A block scalar is written on lines of its own, indented alike. Its header says whether its lines
are kept or folded, which line ends at its end count, and by how much it is indented if the first
line does not show it. -/
namespace TestBench.Yaml

/-- Which ends of lines at the end of a block count. -/
inductive Chomping where
  | strip
  | clip
  | keep
  deriving DecidableEq, Repr

structure BlockHeader where
  chomping : Chomping := .clip
  indent : Option Nat := none
  deriving DecidableEq, Repr

def chomping? : Char → Option Chomping
  | '+' => some .keep
  | '-' => some .strip
  | _ => none

def readIndent (cs : List Char) : Scan (Option Nat × List Char) :=
  match cs with
  | [] => .ok (none, [])
  | c :: rest =>
    match Text.asciiDigit? c with
    | none => .ok (none, c :: rest)
    | some 0 => .error .invalid
    | some n => .ok (some n, rest)

def readChomping (cs : List Char) : Chomping × List Char :=
  match cs with
  | [] => (.clip, [])
  | c :: rest =>
    match chomping? c with
    | none => (.clip, c :: rest)
    | some chomping => (chomping, rest)

def readHeader (cs : List Char) : Scan (BlockHeader × List Char) := do
  let (chomping, afterChomping) := readChomping cs
  let (indent, rest) ← readIndent afterChomping
  let (chomping, rest) :=
    if chomping = .clip ∧ indent.isSome then readChomping rest else (chomping, rest)
  if !endsItem rest then throw .invalid
  match restOfLine? rest with
  | none => throw .invalid
  | some rest => return (⟨chomping, indent⟩, rest)

/-- A line of a text, and the character that ends it unless the text ends there. -/
structure TextLine where
  text : List Char
  ending : Option Char
  deriving DecidableEq, Repr

def textLines : List Char → List TextLine
  | [] => [⟨[], none⟩]
  | c :: cs =>
    if isBreak c then ⟨[], some c⟩ :: textLines cs
    else
      match textLines cs with
      | [] => [⟨[c], none⟩]
      | line :: lines => { line with text := c :: line.text } :: lines

namespace TextLine

def join (lines : List TextLine) : List Char :=
  lines.flatMap fun line => line.text ++ line.ending.toList

def spaces (line : TextLine) : Nat :=
  (line.text.takeWhile (· = ' ')).length

def isEmptyIn (indent : Nat) (line : TextLine) : Bool :=
  line.spaces = line.text.length && line.text.length ≤ indent && line.ending.isSome

def isContentIn (indent : Nat) (line : TextLine) : Bool :=
  indent ≤ line.spaces && indent < line.text.length

end TextLine

/-- The indentation that lines show: the most spaces in the lines up to the first that holds more
than spaces. -/
def shownIndent : List TextLine → Nat
  | [] => 0
  | line :: lines =>
    if line.spaces = line.text.length && line.ending.isSome then max line.spaces (shownIndent lines)
    else line.spaces

/-- Whether a line of a block starts with more than its indentation. -/
def startsBlank (text : List Char) : Bool :=
  match text with
  | [] => false
  | c :: _ => c = ' ' || c = '\t'

/-- The end of a line that was read: the character that ends it, and whether it started blank. -/
structure LineEnd where
  ending : Option Char
  blank : Bool

namespace LineEnd

def text (e : LineEnd) : List Char :=
  e.ending.toList.map breakChar

/-- What stands between two lines of a block with empty lines between them. -/
def joint (folded : Bool) (e : LineEnd) (empty : List Char) (next : List Char) : List Char :=
  if folded && e.text == ['\n'] && !e.blank && !startsBlank next then
    if empty.isEmpty then [' '] else empty
  else e.text ++ empty

end LineEnd

def blockEnd (chomping : Chomping) (last : Option LineEnd) (empty : List Char) : List Char :=
  let text := (last.map LineEnd.text).getD []
  match chomping with
  | .strip => []
  | .clip => text
  | .keep => text ++ empty

/-- The text of a block and the lines behind it. `last` is the end of the line of content before,
`empty` the ends of the empty lines since then. -/
def blockText (folded : Bool) (chomping : Chomping) (indent : Nat) (last : Option LineEnd)
    (empty : List Char) : List TextLine → List Char × List TextLine
  | [] => (blockEnd chomping last empty, [])
  | line :: lines =>
    if line.isEmptyIn indent then
      blockText folded chomping indent last (empty ++ line.ending.toList.map breakChar) lines
    else if line.isContentIn indent then
      let text := line.text.drop indent
      let joint := match last with
        | none => empty
        | some e => e.joint folded empty text
      let (more, rest) :=
        blockText folded chomping indent (some ⟨line.ending, startsBlank text⟩) [] lines
      (joint ++ text ++ more, rest)
    else (blockEnd chomping last empty, line :: lines)

/-- Reads a block scalar behind its indicator, in a collection whose items are indented by `outer`,
or outside any. -/
def readBlock (folded : Bool) (outer : Option Nat) (cs : List Char) :
    Scan (List Char × List Char) := do
  let (header, rest) ← readHeader cs
  let lines := textLines rest
  let least := max 1 ((outer.map (· + 1)).getD 0)
  let indent := match header.indent with
    | some n => least + n - 1
    | none => max least (shownIndent lines)
  let (text, rest) := blockText folded header.chomping indent none [] lines
  return (text, TextLine.join rest)

end TestBench.Yaml
