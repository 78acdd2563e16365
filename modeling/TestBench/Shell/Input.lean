import TestBench.Shell.Value

/-! What commands take from the input and from arguments into variables: the words of a line, and
options, one at each call. -/
namespace TestBench.Shell

/-- The marks of the line that bytes start with, and how many bytes it takes; unless `raw` is set a
backslash makes a character stand for itself and joins lines. The answer tells whether the line
ends. -/
def lineMarks (raw : Bool) : List Char → List Mark × Nat × Bool
  | [] => ([], 0, false)
  | '\n' :: _ => ([], 1, true)
  | '\\' :: c :: cs =>
    if raw then
      let (marks, n, ended) := lineMarks raw (c :: cs)
      (.spliced '\\' :: marks, n + 1, ended)
    else
      let (marks, n, ended) := lineMarks raw cs
      let marks := .splice false :: marks
      (if c = '\n' then marks else .char c true :: marks, n + 2, ended)
  | c :: cs =>
    let (marks, n, ended) := lineMarks raw cs
    (if c = '\x00' || (c = '\\' && !raw) then marks else .spliced c :: marks, n + 1, ended)

/-- Reads the words of a line of the input into variables; the last one gets all that is left. -/
def readLine (raw : Bool) (names : List String) : ShellM Nat := do
  if names.isEmpty then failWith "arg count"
  let s ← get
  let (marks, count, ended) := lineMarks raw (ofBytes s.input).toList
  modify (·.passBytes 0 count)
  let words := (fields s.separators (some names.length) (.splice false :: marks)).map markText
  (List.range names.length).forM fun k =>
    assignNamed (names[k]?.getD "") (words[k]?.getD "")
  return if ended then 0 else 1

structure OptionFound where
  letter : String := "?"
  text : Option (Option String) := none
  message : Option String := none
  ended : Bool := false
  /-- The number of the argument that is looked at next, and how far it has been read. -/
  next : Nat × Option Nat

def optionLetter? (letter : Char) : List Char → Option Bool
  | c :: ':' :: cs => if c = letter then some true else optionLetter? letter cs
  | c :: cs => if c = letter then some false else optionLetter? letter cs
  | [] => none

/-- Looks for the next option in arguments. With a colon in front of the letters it is left to the
caller to say what is wrong. -/
def nextOption (letters : String) (arguments : List String) (place : Nat × Option Nat) :
    OptionFound :=
  let (index, offset) := place
  let current : List Char := match offset with
    | some k =>
      if index ≤ 1 then [] else ((arguments[index - 2]?.map String.toList).getD []).drop k
    | none => []
  let atNew : Option (Option (List Char × Nat)) :=
    if !current.isEmpty then some (some (current, index))
    else
      match (arguments[index - 1]?).map String.toList with
      | some ['-', '-'] => some none
      | some ('-' :: c :: cs) => some (some (c :: cs, index + 1))
      | _ => none
  match atNew with
  | none => { ended := true, next := (index, none) }
  | some none => { ended := true, next := (index + 1, none) }
  | some (some ([], index)) => { ended := true, next := (index, none) }
  | some (some (letter :: rest, index)) =>
    let silent := letters.startsWith ":"
    let length := ((arguments[index - 2]?).getD "").length
    let next := (index, some (length - rest.length))
    match optionLetter? letter letters.toList with
    | none =>
      if silent then { text := some (some letter.toString), next }
      else
        { text := some none, message := some ("Illegal option -" ++ letter.toString ++ "\n"), next }
    | some false => { letter := letter.toString, text := some (some ""), next }
    | some true =>
      match rest, arguments[index - 1]? with
      | [], none =>
        if silent then { letter := ":", text := some (some letter.toString), next := (index, none) }
        else
          { text := some none
            message := some ("No arg for -" ++ letter.toString ++ " option\n")
            next := (index, none) }
      | [], some text =>
        { letter := letter.toString, text := some (some text), next := (index + 1, none) }
      | rest, _ =>
        { letter := letter.toString, text := some (some (String.ofList rest))
          next := (index, none) }

def takeOption (words : List String) : ShellM Nat := do
  match words with
  | letters :: name :: given =>
    let s ← get
    let arguments := if given.isEmpty then s.arguments else given
    let place := if arguments.length + 1 < s.optionPlace.1 then (1, none) else s.optionPlace
    let found := nextOption letters arguments place
    modify fun s => { s with optionPlace := (1, none) }
    match found.text with
    | some (some text) => assign "OPTARG" text
    | some none => modify (·.putVariable "OPTARG" none)
    | none => pure ()
    if let some message := found.message then warn message
    modify (·.setVariable "OPTIND" (toString found.next.1))
    assignNamed name found.letter
    modify fun s => { s with optionPlace := found.next }
    return if found.ended then 1 else 0
  | _ => failWith "Usage: getopts optstring var [arg...]"

end TestBench.Shell
