import TestBench.CommandLine.Flag
import TestBench.Text.Quoted
import TestBench.Value.Integer

/-! Arguments are first told apart, each by itself: a flag, spelled out, shortened, or with its
value attached, or a plain word. Then the flags are taken in order. A flag that takes a value and
has none attached takes the word behind it; words that no flag takes, and flags that there are none
of, are left over. -/
namespace TestBench.CommandLine

inductive ArgumentError where
  | ambiguous (argument : String) (candidates : List String)
  | valueMissing (flag : Flag)
  | valueIgnored (flag : Flag) (value : String)
  | notInteger (flag : Flag) (value : String)
  | unrecognized (arguments : List String)
  | noFiles
  | tooFewJobs
  | settings (reason : String)
  deriving DecidableEq, Repr

namespace ArgumentError

def message : ArgumentError → String
  | .ambiguous argument candidates =>
    "ambiguous option: " ++ argument ++ " could match " ++ ", ".intercalate candidates
  | .valueMissing flag => "argument " ++ flag.name ++ ": expected one argument"
  | .valueIgnored flag value =>
    "argument " ++ flag.name ++ ": ignored explicit argument " ++ Text.quoted value
  | .notInteger flag value =>
    "argument " ++ flag.name ++ ": invalid int value: " ++ Text.quoted value
  | .unrecognized arguments => "unrecognized arguments: " ++ " ".intercalate arguments
  | .noFiles => "must have at least one -f flag"
  | .tooFewJobs => "--jobs must be at least 1"
  | .settings reason => reason

end ArgumentError

/-- What an argument is, taken by itself. -/
inductive Token where
  | word (text : String)
  | flag (f : Flag) (spelling : String) (value : Option String)
  | unknown (text : String)
  deriving DecidableEq, Repr

def splitEquals? (s : String) : Option (String × String) :=
  let cs := s.toList
  match cs.dropWhile (· ≠ '=') with
  | [] => none
  | _ :: value => some (String.ofList (cs.takeWhile (· ≠ '=')), String.ofList value)

/-- The flags that an argument may be short for, or that it is with a value attached to the
letter. -/
def candidates (s : String) : List (Flag × String × Option String) :=
  match s.toList with
  | '-' :: '-' :: _ =>
    let (start, value) := match splitEquals? s with
      | some (start, value) => (start, some value)
      | none => (s, none)
    (Flag.table.filter fun (spelling, _) => start.toList.isPrefixOf spelling.toList).map
      fun (spelling, f) => (f, spelling, value)
  | '-' :: c :: rest =>
    Flag.table.filterMap fun (spelling, f) =>
      if spelling = String.ofList ['-', c] then some (f, spelling, some (String.ofList rest))
      else if s.toList.isPrefixOf spelling.toList then some (f, spelling, none)
      else none
  | _ => []

def allDigits (cs : List Char) : Bool :=
  !cs.isEmpty && cs.all fun c => (Text.digit? c).isSome

def isNegativeNumber (s : String) : Bool :=
  match s.toList with
  | '-' :: rest =>
    let cs := if rest.getLast? = some '\n' then rest.dropLast else rest
    allDigits cs ||
      (match cs.dropWhile fun c => (Text.digit? c).isSome with
      | '.' :: part => allDigits part
      | _ => false)
  | _ => false

namespace Token

def ofOther (s : String) : Except ArgumentError Token :=
  match candidates s with
  | [(f, spelling, value)] => .ok (.flag f spelling value)
  | [] => .ok (if isNegativeNumber s || s.toList.contains ' ' then .word s else .unknown s)
  | several => .error (.ambiguous s (several.map (·.2.1)))

def ofArgument (s : String) : Except ArgumentError Token :=
  if s.toList.head? ≠ some '-' then .ok (.word s)
  else
    match Flag.ofSpelling? s with
    | some f => .ok (.flag f s none)
    | none =>
      if s.length = 1 then .ok (.word s)
      else
        match splitEquals? s with
        | some (spelling, value) =>
          match Flag.ofSpelling? spelling with
          | some f => .ok (.flag f spelling (some value))
          | none => ofOther s
        | none => ofOther s

end Token

structure Taken where
  flag : Flag
  value : String := ""
  deriving DecidableEq, Repr

/-- The flags that letters behind a letter stand for. The first of them takes the rest as its value
if it takes one; the last of them, if it takes one, has it still to come. -/
def cluster (f : Flag) : List Char → Except ArgumentError (List Taken × Option Flag)
  | [] => .ok (if f.takesValue then ([], some f) else ([⟨f, ""⟩], none))
  | c :: rest =>
    if f.takesValue then .ok ([⟨f, String.ofList (c :: rest)⟩], none)
    else
      match Flag.ofSpelling? (String.ofList ['-', c]) with
      | none => .error (.valueIgnored f (String.ofList (c :: rest)))
      | some g => do
        let (taken, open_) ← cluster g rest
        return (⟨f, ""⟩ :: taken, open_)

/-- The flags that one flag with a value attached stands for. Only flags of one letter form
clusters. -/
def expandFlag (f : Flag) (spelling : String) (value : Option String) :
    Except ArgumentError (List Taken × Option Flag) :=
  match value with
  | none => .ok (if f.takesValue then ([], some f) else ([⟨f, ""⟩], none))
  | some v =>
    if f.takesValue then .ok ([⟨f, v⟩], none)
    else if v.isEmpty || spelling.toList.take 2 == ['-', '-'] then .error (.valueIgnored f v)
    else cluster f v.toList

/-- What arguments ask for, in order: flags to take, and what is left over. -/
inductive Item where
  | take (t : Taken)
  | left (text : String)
  | mistake (e : ArgumentError)
  deriving DecidableEq, Repr

def items : List Token → List Item
  | [] => []
  | .word s :: rest => .left s :: items rest
  | .unknown s :: rest => .left s :: items rest
  | .flag f spelling value :: rest =>
    match expandFlag f spelling value with
    | .error e => [.mistake e]
    | .ok (taken, none) => taken.map .take ++ items rest
    | .ok (taken, some g) =>
      match rest with
      | .word s :: rest => taken.map .take ++ .take ⟨g, s⟩ :: items rest
      | _ => [.mistake (.valueMissing g)]

structure Options where
  files : List String := []
  logfile : Option String := none
  output : Option String := none
  mailTo : Option String := none
  config : Option String := none
  jobs : Option Int := none
  patterns : List String := []
  listOnly : Bool := false
  leftOver : List String := []
  deriving DecidableEq, Repr

inductive Demand where
  | help
  | error (e : ArgumentError)
  | fault (f : Fault)
  | options (o : Options)
  deriving DecidableEq, Repr

def jobs? (value : String) : Option Int :=
  (readInteger value.toList "").toOption

def Options.take (o : Options) (t : Taken) : Except ArgumentError Options :=
  match t.flag with
  | .help => .ok o
  | .file => .ok { o with files := o.files ++ [t.value] }
  | .logfile => .ok { o with logfile := some t.value }
  | .output => .ok { o with output := some t.value }
  | .mailTo => .ok { o with mailTo := some t.value }
  | .config => .ok { o with config := some t.value }
  | .jobs =>
    match jobs? t.value with
    | some n => .ok { o with jobs := some n }
    | none => .error (.notInteger .jobs t.value)
  | .pattern => .ok { o with patterns := o.patterns ++ [t.value] }
  | .list => .ok { o with listOnly := true }

/-- Takes items in order. The first mistake or the flag for help ends it; the separator of the
arguments of the tool is no value. -/
def takeItems (o : Options) : List Item → Demand
  | [] => .options o
  | .left s :: rest => takeItems { o with leftOver := o.leftOver ++ [s] } rest
  | .mistake e :: _ => .error e
  | .take t :: rest =>
    if t.flag = .help then .help
    else if t.value = "--" then .fault (.valueCount 1 0)
    else
      match o.take t with
      | .error e => .error e
      | .ok o => takeItems o rest

def Options.check (o : Options) : Demand :=
  if !o.leftOver.isEmpty then .error (.unrecognized o.leftOver)
  else if o.files.isEmpty then .error .noFiles
  else
    match o.jobs with
    | some n => if n < 1 then .error .tooFewJobs else .options o
    | none => .options o

namespace Demand

def ofArguments (arguments : List String) : Demand :=
  match arguments.mapM Token.ofArgument with
  | .error e => .error e
  | .ok tokens =>
    match takeItems {} (items tokens) with
    | .options o => o.check
    | d => d

end Demand

/-- The arguments before the first separator, and those for the tool behind it. -/
def splitToolArguments (arguments : List String) : List String × List String :=
  (arguments.takeWhile (· ≠ "--"), (arguments.dropWhile (· ≠ "--")).drop 1)

end TestBench.CommandLine
