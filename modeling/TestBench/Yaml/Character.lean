/-! Which characters a text may hold, and which of them end a word, a line, or a document. All
readers work on texts whose line ends are line feeds, next to which three more characters end a
line. -/
namespace TestBench.Yaml

def isAllowed (c : Char) : Bool :=
  let n := c.toNat
  n = 0x9 || n = 0xA || n = 0xD || n = 0x85 || (0x20 ≤ n && n ≤ 0x7E) || (0xA0 ≤ n && n ≤ 0xD7FF) ||
    (0xE000 ≤ n && n ≤ 0xFFFD) || 0x10000 ≤ n

def isBreak (c : Char) : Bool :=
  c = '\n' || c = '\x85' || c = '\u2028' || c = '\u2029'

/-- The character that an end of a line stands for; only separators stand for themselves. -/
def breakChar (c : Char) : Char :=
  if c = '\u2028' || c = '\u2029' then c else '\n'

def isGap (c : Char) : Bool :=
  c = ' ' || c = '\t' || isBreak c

/-- Whether a word ends before what comes next: a space, a tab, the end of a line or of the text. -/
def endsWord (cs : List Char) : Bool :=
  match cs with
  | [] => true
  | c :: _ => isGap c

def endsItem (cs : List Char) : Bool :=
  match cs with
  | [] => true
  | c :: _ => c = ' ' || isBreak c

def dropSpaces (cs : List Char) : List Char :=
  cs.dropWhile (· = ' ')

def dropComment (cs : List Char) : List Char :=
  match dropSpaces cs with
  | '#' :: rest => rest.dropWhile (!isBreak ·)
  | rest => rest

/-- What follows spaces, a comment, and the end of the line, if there is nothing else on it. -/
def restOfLine? (cs : List Char) : Option (List Char) :=
  match dropComment cs with
  | [] => some []
  | c :: rest => if isBreak c then some rest else none

def startsDocument : List Char → Bool
  | '-' :: '-' :: '-' :: rest => endsWord rest
  | _ => false

def endsDocument : List Char → Bool
  | '.' :: '.' :: '.' :: rest => endsWord rest
  | _ => false

def marksDocument (cs : List Char) : Bool :=
  startsDocument cs || endsDocument cs

def isNameChar (c : Char) : Bool :=
  c.isAlphanum || c = '-' || c = '_'

end TestBench.Yaml
