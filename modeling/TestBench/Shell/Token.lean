import TestBench.Shell.Command

/-! A command line is read character by character. A backslash before a line end joins two lines,
except between single quotes. The first word of a command can stand for a text by an alias: the text
is put in its place and read again. While the text of an alias is read, the alias stands for
nothing; if the text ends in a blank, the word behind it can be an alias too. -/
namespace TestBench.Shell

structure ReadFault where
  line : Nat
  message : String
  deriving DecidableEq, Repr

inductive Token where
  | finish
  | newline
  | mark (text : String)
  | keyword (name : String)
  | word (word : Word)
  | redirect (number : Nat) (mode : RedirectMode)
  /-- A text behind the line is asked for; with `strip` it loses the tabs that its lines start
  with. -/
  | document (number : Nat) (strip : Bool)

namespace Token

def shown : Token → String
  | .finish => "end of file"
  | .newline => "newline"
  | .mark text | .keyword text => "\x22" ++ text ++ "\x22"
  | .word _ => "word"
  | .redirect .. | .document .. => "redirection"

def isMark (t : Token) (text : String) : Bool :=
  match t with
  | .mark m => m == text
  | _ => false

def isKeyword (t : Token) (name : String) : Bool :=
  match t with
  | .keyword k => k == name
  | _ => false

def endsList : Token → Bool
  | .finish => true
  | .mark text => text = ")" || text = ";;"
  | .keyword name =>
    ["then", "else", "elif", "fi", "do", "done", "esac", "\x7d"].contains name
  | _ => false

end Token

def keywords : List String :=
  ["!", "case", "do", "done", "elif", "else", "esac", "fi", "for", "if", "in", "then", "until",
    "while", "\x7b", "\x7d"]

/-- A text behind the line that a command asks for: its number, the line that ends it, whether its
lines lose the tabs they start with, and whether it stands for itself. -/
structure Document where
  number : Nat
  ending : String
  strip : Bool
  plain : Bool
  deriving Repr

/-- The text of an alias under way: what is left of the line when it is over, and whether it ends in
a blank. -/
structure OpenAlias where
  name : String
  left : Nat
  blankEnd : Bool
  deriving Repr

structure Source where
  rest : List Char
  line : Nat := 1
  aliases : List (String × String) := []
  openAliases : List OpenAlias := []
  pushed : Option Token := none
  lastWord : Word := []
  wanted : List Document := []
  found : List (Nat × Word) := []
  nextText : Nat := 0

abbrev Reader := StateT Source (Except ReadFault)

def isMeta (c : Char) : Bool :=
  [' ', '\t', '\n', ';', '&', '|', '<', '>', '(', ')'].contains c

def isNameStart (c : Char) : Bool :=
  c.isAlpha || c = '_'

def isNamePart (c : Char) : Bool :=
  c.isAlphanum || c = '_'

def isName (cs : List Char) : Bool :=
  cs.head?.any isNameStart && cs.all isNamePart

def isSpecialName (c : Char) : Bool :=
  ['@', '*', '#', '?', '-', '$', '!'].contains c || c.isDigit

/-- The commands of the shell that are special: what is wrong with them ends the shell, and
assignments before them last. -/
def specialCommands : List String :=
  [".", ":", "break", "continue", "eval", "exec", "exit", "export", "local", "readonly", "return",
    "set", "shift", "times", "trap", "unset"]

/-- A text without the joined line ends it starts with, and their number. -/
def dropJoins : List Char → List Char × Nat
  | '\\' :: '\n' :: cs => ((dropJoins cs).1, (dropJoins cs).2 + 1)
  | cs => (cs, 0)

namespace Reader

def fail {α : Type} (message : String) : Reader α := do
  throw ⟨(← get).line, "Syntax error: " ++ message⟩

def unexpected {α : Type} (t : Token) : Reader α :=
  fail (t.shown ++ " unexpected")

def unexpectedFor {α : Type} (t expected : Token) : Reader α :=
  fail (t.shown ++ " unexpected (expecting " ++ expected.shown ++ ")")

/-- The character that comes next, behind joined line ends. -/
def peek : Reader (Option Char) := do
  let s ← get
  let (rest, joins) := dropJoins s.rest
  set { s with rest, line := s.line + joins }
  return rest.head?

def advance : Reader Unit :=
  modify fun s =>
    { s with rest := s.rest.drop 1, line := s.line + if s.rest.head? = some '\n' then 1 else 0 }

/-- Passes a character; it is no line end that counts. -/
def skip : Reader Unit :=
  modify fun s => { s with rest := s.rest.drop 1 }

def take : Reader (Option Char) := do
  let c ← peek
  advance
  return c

def takes (c : Char) : Reader Bool := do
  if (← peek) = some c then
    advance
    return true
  else return false

def takeWhile (p : Char → Bool) : Nat → Reader (List Char)
  | 0 => return []
  | fuel + 1 => do
    match ← peek with
    | some c =>
      if p c then
        advance
        return c :: (← takeWhile p fuel)
      else return []
    | none => return []

def passLine : Reader Unit :=
  modify fun s => { s with rest := s.rest.dropWhile (· ≠ '\n') }

/-- Gives a token back: it is read again. -/
def giveBack (t : Token) : Reader Unit :=
  modify fun s => { s with pushed := some t }

/-- Puts the text of an alias in front of what is left. An alias among those in use whose text has
just ended at the name of this one stands for nothing in this text, too. -/
def openAlias (inUse : List OpenAlias) (name text : String) : Reader Unit :=
  modify fun s =>
    let left := s.rest.length
    let ended := inUse.filter fun a => left ≤ a.left
    { s with
      rest := text.toList ++ s.rest
      openAliases := ⟨name, left, [' ', '\t'].contains (text.toList.getLastD '\n')⟩ ::
        ended.map (fun a => { a with left, blankEnd := false }) ++ s.openAliases }

/-- Closes the aliases whose texts are over; says whether one of them ends in a blank. -/
def closeAliases : Reader Bool := do
  let s ← get
  if s.openAliases.isEmpty then return false
  else
    let left := s.rest.length
    set { s with openAliases := s.openAliases.filter (·.left < left) }
    return s.openAliases.any fun a => left ≤ a.left && a.blankEnd

end Reader

end TestBench.Shell
