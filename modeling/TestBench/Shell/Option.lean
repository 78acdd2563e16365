import TestBench.Shell.File

/-! The words of a command can hold options: letters behind a minus sign. A letter may take a text,
which is the rest of its word or the next word. Two minus signs end the options. The commands of the
shell take options in front of their other words, programs take them anywhere. -/
namespace TestBench.Shell

/-- The letters of the options that a command takes, and whether a text goes with each. -/
abbrev OptionLetters := List (Char × Bool)

/-- The letters that are listed; a text goes with those before a colon. -/
def OptionLetters.ofText : List Char → OptionLetters
  | c :: ':' :: cs => (c, true) :: ofText cs
  | c :: cs => (c, false) :: ofText cs
  | [] => []

inductive OptionFault where
  | unknown (word : String) (letter : Char)
  | textMissing (letter : Char)
  deriving DecidableEq, Repr

def OptionFault.message : OptionFault → String
  | .unknown _ letter => "Illegal option -" ++ letter.toString
  | .textMissing letter => "No arg for -" ++ letter.toString ++ " option"

/-- The options that the letters of a word give, each with its text, and the last letter if its text
is the next word. -/
def letterOptions (known : OptionLetters) (word : String) :
    List Char → Except OptionFault (List (Char × String) × Option Char)
  | [] => .ok ([], none)
  | c :: cs =>
    match known.lookup c with
    | none => .error (.unknown word c)
    | some false => (letterOptions known word cs).map fun r => ((c, "") :: r.1, r.2)
    | some true => .ok (if cs.isEmpty then ([], some c) else ([(c, String.ofList cs)], none))

/-- The options that words give, and the other words. `wanting` is a letter whose text is the next
word. -/
def splitOptionsFrom (known : OptionLetters) (anywhere : Bool) (wanting : Option Char) :
    List String → Except OptionFault (List (Char × String) × List String)
  | [] =>
    match wanting with
    | none => .ok ([], [])
    | some c => .error (.textMissing c)
  | word :: words =>
    match wanting, word.toList with
    | some c, _ =>
      (splitOptionsFrom known anywhere none words).map fun r => ((c, word) :: r.1, r.2)
    | none, ['-', '-'] => .ok ([], words)
    | none, '-' :: c :: cs => do
      let (options, wanting) ← letterOptions known word (c :: cs)
      let (more, rest) ← splitOptionsFrom known anywhere wanting words
      return (options ++ more, rest)
    | none, _ =>
      if anywhere then (splitOptionsFrom known anywhere none words).map fun r => (r.1, word :: r.2)
      else .ok ([], word :: words)

def commandOptions : List (String × String) :=
  [(".", ""), ("bg", ""), ("cd", "LP"), ("chdir", "LP"), ("command", "pvV"), ("export", "p"),
    ("fg", ""), ("hash", "r"), ("jobs", "lp"), ("printf", ""), ("pwd", "LP"), ("read", "p:r"),
    ("readonly", "p"), ("trap", ""), ("ulimit", "HSatfdscmlpnvwr"), ("umask", "S"),
    ("unalias", "a"), ("unset", "vf"), ("wait", "")]

/-- The commands that look no further when they have found an option. -/
def decidedCommands : List String := ["export", "hash", "readonly", "unalias"]

def splitCommandOptions (name : String) (words : List String) :
    Except OptionFault (List (Char × String) × List String) :=
  match commandOptions.lookup name with
  | some letters =>
    let first? := match (words.headD "").toList with
      | '-' :: letter :: _ => if letters.contains letter then some letter else none
      | _ => none
    match if decidedCommands.contains name then first? else none with
    | some letter => .ok ([(letter, "")], words.drop 1)
    | none => splitOptionsFrom (OptionLetters.ofText letters.toList) false none words
  | none => .ok ([], words)

def shellOptions : List (String × Option Char) :=
  [("errexit", 'e'), ("noglob", 'f'), ("ignoreeof", 'I'), ("interactive", 'i'), ("monitor", 'm'),
    ("noexec", 'n'), ("stdin", 's'), ("xtrace", 'x'), ("verbose", 'v'), ("vi", 'V'), ("emacs", 'E'),
    ("noclobber", 'C'), ("allexport", 'a'), ("notify", 'b'), ("nounset", 'u'), ("privileged", 'p'),
    ("nolog", none), ("debug", none)]

def shownOptions (on : List String) : String :=
  String.ofList ((shellOptions.filter fun o => on.contains o.1).filterMap (·.2)).reverse

def State.withOption (s : State) (name : String) (on : Bool) : State :=
  let others := s.options.filter (· ≠ name)
  { s with options := if on then name :: others else others }

def State.withOptions (s : State) (changes : List (String × Bool)) : State :=
  changes.foldl (fun s (name, on) => s.withOption name on) s

/-- What words say about the options of the shell: the changes, a wish to see them all, in which
form, and the words that are left, which become the arguments if there are any or if it is said so
with two minus signs. -/
structure OptionWords where
  changes : List (String × Bool) := []
  shown : List Bool := []
  left : List String := []
  ended : Bool := false
  withText : Bool := false
  fault : Option String := none

/-- What a letter says about the options of the shell. Of the two ways of editing lines at most one
is on. -/
def letterChange? (on : Bool) (letter : Char) : Option (List (String × Bool)) :=
  (shellOptions.find? (·.2 == some letter)).map fun (name, _) =>
    match name, on with
    | "vi", true => [(name, on), ("emacs", false)]
    | "emacs", true => [(name, on), ("vi", false)]
    | _, _ => [(name, on)]

/-- What the letters of a word say about the options of the shell, `words` being the words behind
it; the letter `o` takes the name of an option. `atCall` is set for letters that only the call of a
shell can have. -/
def letterChanges (atCall on : Bool) (words : List String) (given : OptionWords) :
    List Char → OptionWords
  | [] => { given with left := words }
  | 'o' :: cs =>
    match words with
    | [] => letterChanges atCall on [] { given with shown := given.shown ++ [on] } cs
    | name :: words =>
      if shellOptions.any (·.1 == name) then
        letterChanges atCall on words { given with changes := given.changes ++ [(name, on)] } cs
      else { given with fault := some ("Illegal option -o " ++ name) }
  | c :: cs =>
    if atCall && c = 'c' then letterChanges atCall on words { given with withText := true } cs
    else if atCall && c = 'l' then letterChanges atCall on words given cs
    else
      match letterChange? on c with
      | some changes =>
        letterChanges atCall on words { given with changes := given.changes ++ changes } cs
      | none => { given with fault := some (OptionFault.unknown "" c).message }

/-- What words say about the options of the shell, of which at most `fuel` do. A single minus sign
turns off that commands and lines are shown. -/
def optionWords (atCall : Bool) (given : OptionWords) : Nat → List String → OptionWords
  | fuel + 1, word :: words =>
    match word.toList with
    | ['-'] =>
      let off := if atCall then [] else [("xtrace", false), ("verbose", false)]
      { given with changes := given.changes ++ off, left := words }
    | ['-', '-'] => { given with left := words, ended := true }
    | sign :: cs =>
      if sign = '-' ∨ sign = '+' then
        let given := letterChanges atCall (sign = '-') words given cs
        if given.fault.isSome then given else optionWords atCall given fuel given.left
      else { given with left := word :: words }
    | [] => { given with left := word :: words }
  | _, words => { given with left := words }

def optionTable (on : List String) (asTable : Bool) : String :=
  if asTable then
    "Current option settings\n" ++ String.join (shellOptions.map fun (name, _) =>
      name ++ String.ofList (List.replicate (16 - name.length) ' ') ++
        (if on.contains name then "on" else "off") ++ "\n")
  else
    String.join (shellOptions.map fun (name, _) =>
      "set " ++ (if on.contains name then "-" else "+") ++ "o " ++ name ++ "\n")

def noControl : String := "can't access tty; job control turned off"

structure ShellCall where
  name : String
  said : String
  changes : List (String × Bool)
  arguments : List String := []
  text : String := ""
  isFile : Bool := true
  fromInput : Bool := false
  fault : Option String := none

/-- What the shell makes of its words when it is called by a name: they hold a text, or name a file
that holds it, or else the input is the text. Options that it says something about are on then. -/
def ShellCall.ofWords (s : State) (name : String) (words : List String) : ShellCall :=
  let given := optionWords true {} words.length words
  let said := String.join (given.shown.map (optionTable (shellOptions.map (·.1))))
  let call : ShellCall := { name, said, changes := given.changes }
  if given.fault.isSome then { call with fault := given.fault }
  else if given.withText then
    match given.left with
    | [] => { call with fault := some "-c requires an argument" }
    | [text] => { call with text, isFile := false }
    | text :: title :: arguments => { call with name := title, arguments, text, isFile := false }
  else
    match given.left with
    | file :: arguments =>
      if given.changes.contains ("stdin", true) then
        { call with arguments := file :: arguments, text := ofBytes s.input, fromInput := true }
      else
        match contents? s file with
        | some bytes => { call with name := file, arguments, text := ofBytes bytes }
        | none =>
          if isDirectory s file then { call with name := file, arguments }
          else { call with fault := some ("cannot open " ++ file ++ ": No such file") }
    | [] =>
      { call with
        changes := given.changes ++ [("stdin", true)], text := ofBytes s.input, fromInput := true }

def ShellCall.asksControl (call : ShellCall) : Bool :=
  ["monitor", "interactive"].any fun name =>
    (call.changes.filter (·.1 = name)).getLast?.any (·.2)

def State.ofCall (s : State) (call : ShellCall) : State :=
  let s := ((s.child call.name call.arguments).withOptions call.changes).withOption "monitor" false
  if call.fromInput then s.passBytes 0 s.input.length else s

end TestBench.Shell
