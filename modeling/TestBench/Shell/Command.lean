/-! What a command line means to the shell: commands joined by operators, made of words, which are
made of pieces. A piece is a character or something that is replaced by a text when the word is
used; either is quoted or not. -/
namespace TestBench.Shell

/-- What is done with the value of a variable, and what the word behind its name is for. With
`ifEmpty` an empty value counts as none. -/
inductive ValueRule where
  | value
  | length
  | fallback (ifEmpty : Bool)
  | assign (ifEmpty : Bool)
  | replace (ifEmpty : Bool)
  | demand (ifEmpty : Bool)
  /-- The word is a pattern; the start of the value that it fits is taken off. -/
  | cutStart (longest : Bool)
  | cutEnd (longest : Bool)
  | unknown
  deriving DecidableEq, Repr

inductive RedirectMode where
  | read
  | write
  | overwrite
  | append
  | readWrite
  | copy
  /-- What is read from it stands behind the line; texts of that kind are numbered. -/
  | text (number : Nat)
  deriving DecidableEq, Repr

mutual

inductive Piece where
  | char (c : Char) (quoted : Bool)
  | place
  | variable (name : String) (rule : ValueRule) (word : List Piece) (quoted : Bool)
  | output (body : Command) (quoted : Bool)
  | arithmetic (body : List Piece) (quoted : Bool)

/-- A command; the numbers are those of lines. The open files that a command changes are given by
their numbers, what is done, and with which file. -/
inductive Command where
  | nothing
  | simple (line : Nat) (assignments : List (String × List Piece)) (words : List (List Piece))
    (redirects : List (Nat × RedirectMode × List Piece))
  | subshell (line : Nat) (body : Command) (redirects : List (Nat × RedirectMode × List Piece))
  | redirected (line : Nat) (body : Command) (redirects : List (Nat × RedirectMode × List Piece))
  | background (body : Command)
  | pipe (stages : List Command)
  | negate (body : Command)
  | next (first second : Command)
  | both (first second : Command)
  | either (first second : Command)
  | choice (condition yes no : Command)
  /-- Repeats the body as long as the condition succeeds, or fails if `untilTrue` is set. -/
  | loop (untilTrue : Bool) (condition body : Command)
  /-- Runs the body for each word, or for each argument if there is no list of words. -/
  | each (line : Nat) (name : String) (words : Option (List (List Piece))) (body : Command)
  | select (line : Nat) (word : List Piece) (arms : List (List (List Piece) × Command))
  | define (name : String) (body : Command)

end

instance : Inhabited Command := ⟨.nothing⟩

abbrev Word := List Piece

/-- A change of the open files of a command: the number of one, what is done, and with which
file. -/
abbrev Redirect := Nat × RedirectMode × Word

/-- The characters that stand for themselves at the start of a word and are not quoted. -/
def plainStart : Word → List Char
  | .char c false :: rest => c :: plainStart rest
  | _ => []

def plainText? (word : Word) : Option String :=
  let cs := plainStart word
  if cs.length = word.length then some (String.ofList cs) else none

def isQuoted (word : Word) : Bool :=
  word.any fun
    | .char _ quoted => quoted
    | .place => true
    | _ => false

def literalText (word : Word) : String :=
  String.ofList (word.filterMap fun
    | .char c _ => some c
    | _ => none)

end TestBench.Shell
