import TestBench.Text.Utf8

/-! A line ends at a line feed, a carriage return, or the two together; no other character ends one.
A file is decoded in blocks of fixed size, as its lines are asked for: the lines before a block that
is not UTF-8 can still be read, and what comes then cannot. -/
namespace TestBench.Text

def unifyBreaks : List Char → List Char
  | [] => []
  | '\r' :: '\n' :: cs => '\n' :: unifyBreaks cs
  | c :: cs => (if c = '\r' then '\n' else c) :: unifyBreaks cs

/-- The lines that end in a line feed, without it, and what follows the last line feed. -/
def splitLines : List Char → List (List Char) × List Char
  | [] => ([], [])
  | c :: cs =>
    match splitLines cs with
    | ([], last) => if c = '\n' then ([[]], last) else ([], c :: last)
    | (line :: lines, last) =>
      if c = '\n' then ([] :: line :: lines, last) else ((c :: line) :: lines, last)

/-- The lines of a text whose line ends are line feeds; a last line may lack its line feed. -/
def lines (cs : List Char) : List (List Char) :=
  let (full, last) := splitLines cs
  if last.isEmpty then full else full ++ [last]

/-- The lines that can be read from a file, and whether what follows them is not UTF-8. -/
structure LineStream where
  lines : List String
  broken : Bool
  deriving DecidableEq, Repr

def blockSize : Nat := 8192

def blocks (bytes : List UInt8) : List (List UInt8) :=
  if bytes.isEmpty then [] else bytes.take blockSize :: blocks (bytes.drop blockSize)
termination_by bytes.length
decreasing_by
  cases bytes with
  | nil => simp_all
  | cons => simp only [blockSize, List.length_drop, List.length_cons]; omega

/-- The text of the blocks before the first broken one, and whether there is a broken one. A
character may reach over the end of a block; the end of the file must not cut one. -/
def decodeBlocks (s : Utf8State) : List (List UInt8) → List Char × Bool
  | [] => ([], s != .boundary)
  | block :: rest =>
    let (pieces, next) := s.run block
    match whole? pieces with
    | none => ([], true)
    | some text =>
      let (more, broken) := decodeBlocks next rest
      (text ++ more, broken)

/-- A carriage return at the end of a text, which a line feed may yet follow, is taken off. -/
def dropPendingReturn (cs : List Char) : List Char :=
  if cs.getLast? = some '\r' then cs.dropLast else cs

/-- The lines of a file with the given bytes. Only lines that have ended come before a broken
block. -/
def LineStream.ofBytes (bytes : List UInt8) : LineStream :=
  let (text, broken) := decodeBlocks .boundary (blocks bytes)
  let found :=
    if broken then (splitLines (unifyBreaks (dropPendingReturn text))).1
    else Text.lines (unifyBreaks text)
  ⟨found.map String.ofList, broken⟩

end TestBench.Text
