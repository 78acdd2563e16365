import TestBench.Yaml.Cursor

/-! A plain scalar is made of runs of characters with gaps between them. A gap within a line is its
spaces; one that holds the end of a line stands for a space, or for the empty lines in it. Where the
scalar ends depends on whether brackets are open and, if none are, on the indentation. -/
namespace TestBench.Yaml

def endsRun (inBrackets : Bool) (c : Char) (rest : List Char) : Bool :=
  isGap c || (inBrackets && [',', '?', '[', ']', '\x7b', '\x7d'].contains c) ||
    (c = ':' && (endsWord rest ||
      (inBrackets &&
        rest.head?.any fun d => [',', '[', ']', '\x7b', '\x7d'].contains d)))

def plainRun (inBrackets : Bool) : List Char → List Char × List Char
  | [] => ([], [])
  | c :: rest =>
    if endsRun inBrackets c rest then ([], c :: rest)
    else
      let (run, rest) := plainRun inBrackets rest
      (c :: run, rest)

/-- The ends of lines that follow one, with the spaces before and between them left out; none if a
document begins or ends there. -/
def plainBreaks (atStart : Bool) (cs : List Char) : Option (List Char) × List Char :=
  if atStart && marksDocument cs then (none, cs)
  else
    match cs with
    | [] => (some [], [])
    | c :: rest =>
      if c = ' ' then plainBreaks false rest
      else if isBreak c then
        let (breaks, rest) := plainBreaks true rest
        (breaks.map (breakChar c :: ·), rest)
      else (some [], c :: rest)

structure PlainGap where
  /-- The text it stands for; empty if no run can follow. -/
  text : List Char
  broken : Bool
  rest : List Char

def plainGap (cs : List Char) : PlainGap :=
  let spaces := cs.takeWhile (· = ' ')
  match dropSpaces cs with
  | [] => ⟨spaces, false, []⟩
  | c :: rest =>
    if isBreak c then
      match plainBreaks true rest with
      | (none, rest) => ⟨[], true, rest⟩
      | (some breaks, rest) =>
        let text :=
          if breakChar c ≠ '\n' then breakChar c :: breaks
          else if breaks.isEmpty then [' '] else breaks
        ⟨text, true, rest⟩
    else ⟨spaces, false, c :: rest⟩

/-- A plain scalar that was read: its text, the place behind it, and whether the line of that place
starts with it. -/
structure PlainScalar where
  text : List Char
  cursor : Cursor
  atLineStart : Bool

/-- Reads at most `fuel` more runs; `gap` is the text of the gap before them. -/
def readPlainFrom (inBrackets : Bool) (indent : Nat) :
    Nat → List Char → Bool → Cursor → PlainScalar
  | 0, _, broken, cursor => ⟨[], cursor, broken⟩
  | fuel + 1, gap, broken, cursor =>
    if cursor.rest.head? = some '#' then ⟨[], cursor, broken⟩
    else
      match plainRun inBrackets cursor.rest with
      | ([], _) => ⟨[], cursor, broken⟩
      | (run, rest) =>
        let after := plainGap rest
        let cursor := cursor.moveTo after.rest
        if after.text.isEmpty || (!inBrackets && cursor.column < indent) then
          ⟨gap ++ run, cursor, after.broken⟩
        else
          let more := readPlainFrom inBrackets indent fuel after.text after.broken cursor
          { more with text := gap ++ run ++ more.text }

/-- Reads a plain scalar; outside brackets its further lines are indented by `indent` at least. -/
def readPlain (inBrackets : Bool) (indent : Nat) (cursor : Cursor) : PlainScalar :=
  readPlainFrom inBrackets indent (cursor.rest.length + 1) [] false cursor

end TestBench.Yaml
