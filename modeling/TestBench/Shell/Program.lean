import TestBench.Shell.Effect
import TestBench.Shell.FileName
import TestBench.Shell.Option

/-! The programs beside the shell: what they write and the code they end with depend on their words,
their input and the files alone. Main definition: `program?`. -/
namespace TestBench.Shell

/-- A call of a program: what it was called, its words, and the shell as it sees it. -/
structure ProgramCall where
  name : String
  words : List String
  state : State

namespace ProgramCall

def writing (c : ProgramCall) (bytes : List UInt8) : Effect :=
  { said := [.bytes bytes], input := c.state.input }

def rewriting (c : ProgramCall) (f : List UInt8 → List UInt8) : Effect :=
  { said := [.bytes (f c.state.input)], input := [] }

def failing (c : ProgramCall) (code : Nat) (message : String) : Effect :=
  { said := [.message (c.name ++ ": " ++ message)], code, input := c.state.input }

def misused (c : ProgramCall) (code : Nat) (message : String) : Effect :=
  { said := [.message (c.name ++ ": " ++ message ++ "\nTry '" ++ c.name ++
      " --help' for more information.")]
    code, input := c.state.input }

def quotedWord (word : String) : String :=
  byteText "‘" ++ word ++ byteText "’"

def withOptions (c : ProgramCall) (code : Nat) (letters : String)
    (act : List (Char × String) → List String → Effect) : Effect :=
  match splitOptionsFrom (OptionLetters.ofText letters.toList) true none c.words with
  | .ok (options, operands) => act options operands
  | .error (.textMissing letter) =>
    c.misused code ("option requires an argument -- '" ++ letter.toString ++ "'")
  | .error (.unknown word letter) =>
    match word.toList with
    | '-' :: '-' :: _ => c.misused code ("unrecognized option '" ++ word ++ "'")
    | _ => c.misused code ("invalid option -- '" ++ letter.toString ++ "'")

def missingReason (c : ProgramCall) (name : String) : String :=
  if name = "-" then "Bad file descriptor"
  else if isDirectory c.state name then "Is a directory" else "No such file or directory"

def content? (c : ProgramCall) (name : String) : Option (List UInt8) :=
  if name = "-" then c.state.readable? 0 else contents? c.state name

/-- The bytes of files, one after the other; no file stands for the input, if that is open. -/
def concatenate (c : ProgramCall) (names : List String) : Effect :=
  let names := if names.isEmpty then ["-"] else names
  let isClosed := names.contains "-" && (c.state.handle? 0).isNone
  { said := (names.map fun name =>
      match c.content? name with
      | some bytes => .bytes bytes
      | none => .message (c.name ++ ": " ++ shownName name ++ ": " ++ c.missingReason name)) ++
      if isClosed then
        [.message (c.name ++ ": closing standard input: Bad file descriptor")]
      else []
    code := codeOf (names.all fun name => (c.content? name).isSome)
    input := if names.contains "-" then [] else c.state.input }

/-- What the program does with the bytes of its one file, or else of the input, which it then reads
to its end. -/
def withFile (c : ProgramCall) (code : Nat) (refusal : String → String) (names : List String)
    (act : List UInt8 → Effect) : Effect :=
  let name := names.headD "-"
  match c.content? name with
  | some bytes => { act bytes with input := if name = "-" then [] else c.state.input }
  | none => c.failing code (refusal name)

end ProgramCall

def byteLines : List UInt8 → List (List UInt8)
  | [] => []
  | b :: bs =>
    if b = 10 then [b] :: byteLines bs
    else
      match byteLines bs with
      | [] => [[b]]
      | line :: lines => (b :: line) :: lines

def lastOnes {α : Type} (n : Nat) (xs : List α) : List α :=
  xs.drop (xs.length - n)

/-- The part of a list that a number asks for: so many at its start; all but so many at its end if
a minus sign stands before the number. -/
def firstPart {α : Type} (n : String) (xs : List α) : Option (List α) :=
  match n.toList with
  | '-' :: digits => (natural? (String.ofList digits)).map fun k => xs.take (xs.length - k)
  | _ => (natural? n).map xs.take

/-- The part of a list that a number asks for: so many at its end; all from a place on if a plus
sign stands before the number. -/
def lastPart {α : Type} (n : String) (xs : List α) : Option (List α) :=
  match n.toList with
  | '+' :: digits => (natural? (String.ofList digits)).map fun k => xs.drop (k - 1)
  | '-' :: digits => (natural? (String.ofList digits)).map (lastOnes · xs)
  | _ => (natural? n).map (lastOnes · xs)

def withLineOption (words : List String) : List String :=
  match words with
  | word :: rest =>
    match word.toList with
    | '-' :: digit :: digits =>
      if digit.isDigit then "-n" :: String.ofList (digit :: digits) :: rest else words
    | _ => words
  | [] => []

namespace ProgramCall

def part (c : ProgramCall) (letters : String)
    (take : {α : Type} → String → List α → Option (List α)) : Effect :=
  { c with words := withLineOption c.words }.withOptions 1 letters fun options names =>
    let refusal (name : String) : String :=
      "cannot open " ++ quotedName name ++ " for reading: No such file or directory"
    match names with
    | "/dev/zero" :: _ =>
      c.writing (List.replicate (((options.lookup 'c').bind natural?).getD 0) 0)
    | _ =>
      c.withFile 1 refusal names fun bytes =>
        match options.lookup 'c', (options.lookup 'n').getD "10" with
        | some n, _ =>
          match take n bytes with
          | some bytes => c.writing bytes
          | none => c.failing 1 ("invalid number of bytes: " ++ quotedWord n)
        | none, n =>
          match take n (byteLines bytes) with
          | some lines => c.writing lines.flatten
          | none => c.failing 1 ("invalid number of lines: " ++ quotedWord n)

end ProgramCall

def bytesBefore : List UInt8 → List UInt8 → Bool
  | [], _ => true
  | _ :: _, [] => false
  | a :: as, b :: bs => a < b || (a == b && bytesBefore as bs)

def lineNumber (line : List UInt8) : Int :=
  let cs := (ofBytes line).toList.dropWhile fun c => c = ' ' || c = '\t'
  let value (cs : List Char) : Int :=
    (natural? (String.ofList (cs.takeWhile Char.isDigit))).getD 0
  match cs with
  | '-' :: digits => -value digits
  | digits => value digits

/-- Lines in order: by their numbers if they are compared as such, else by their bytes. Equal lines
are one if `distinct` is set. -/
def sortedLines (numeric reversed distinct : Bool) (lines : List (List UInt8)) :
    List (List UInt8) :=
  let notAfter (a b : List UInt8) : Bool :=
    if numeric && lineNumber a ≠ lineNumber b then lineNumber a < lineNumber b
    else if numeric && distinct then true
    else bytesBefore a b
  let sorted := lines.mergeSort (if reversed then fun a b => notAfter b a else notAfter)
  if distinct then
    sorted.eraseRepsBy (if numeric then fun a b => lineNumber a == lineNumber b else (· == ·))
  else sorted

def numbersInSteps (first step last : Int) : List Int :=
  if step = 0 then []
  else (List.range ((last - first) / step + 1).toNat).map fun (k : Nat) => first + step * (k : Int)

def byteClasses : List (String × (Char → Bool)) :=
  [("[:lower:]", Char.isLower), ("[:upper:]", Char.isUpper), ("[:alpha:]", Char.isAlpha),
    ("[:digit:]", Char.isDigit), ("[:alnum:]", Char.isAlphanum),
    ("[:space:]", fun c => c = ' ' || ('\t' ≤ c && c ≤ '\r')),
    ("[:blank:]", fun c => c = ' ' || c = '\t'),
    ("[:punct:]", fun c => '!' ≤ c && c ≤ '~' && !c.isAlphanum)]

def withRanges : List UInt8 → List UInt8
  | first :: 45 :: last :: bs =>
    (List.range (last.toNat + 1 - first.toNat)).map (fun k => UInt8.ofNat (first.toNat + k)) ++
      withRanges bs
  | b :: bs => b :: withRanges bs
  | [] => []

def byteSet (word : String) : List UInt8 :=
  match byteClasses.lookup word with
  | some holds =>
    ((List.range 128).filter fun n => holds (Char.ofNat n)).map UInt8.ofNat
  | none => withRanges (toBytes (String.ofList (escapedText word).1))

def squeezed (set : List UInt8) : List UInt8 → List UInt8
  | a :: b :: bs =>
    if a = b ∧ set.contains a then squeezed set (b :: bs) else a :: squeezed set (b :: bs)
  | bs => bs

namespace ProgramCall

def sort (c : ProgramCall) : Effect :=
  c.withOptions 2 "bcCdfghik:mMno:rRsS:t:T:uVz" fun options names =>
    let refusal (name : String) : String :=
      "cannot read: " ++ shownName name ++ ": " ++ c.missingReason name
    c.withFile 2 refusal names fun bytes =>
      let lines := (byteLines bytes).map fun line =>
        if line.getLast? = some 10 then line else line ++ [10]
      let has (letter : Char) : Bool := (options.lookup letter).isSome
      c.writing (sortedLines (has 'n') (has 'r') (has 'u') lines).flatten

/-- Numbers, each on a line or behind a separator; with `-w` they are of one width. -/
def sequence (c : ProgramCall) : Effect :=
  let parsed : Except OptionFault (List (Char × String) × List String) :=
    match c.words with
    | word :: _ =>
      if (integer? word).isSome then .ok ([], c.words)
      else splitOptionsFrom (OptionLetters.ofText "f:s:w".toList) false none c.words
    | [] => .ok ([], [])
  let written (options : List (Char × String)) (first step last : Int) : Effect :=
    let texts := (numbersInSteps first step last).map fun (n : Int) => toString n
    let width := (texts.map String.length).foldl max 0
    let texts := if (options.lookup 'w').isSome then
        texts.map fun t => String.ofList (List.replicate (width - t.length) '0') ++ t
      else texts
    let text := ((options.lookup 's').getD "\n").intercalate texts
    c.writing (toBytes (if texts.isEmpty then text else text ++ "\n"))
  match parsed with
  | .error _ => c.withOptions 1 "f:s:w" fun _ _ => c.misused 1 "missing operand"
  | .ok (_, []) => c.misused 1 "missing operand"
  | .ok (options, operands) =>
    match operands[3]?, operands.find? fun word => (integer? word).isNone with
    | some extra, _ => c.misused 1 ("extra operand " ++ quotedWord extra)
    | none, some word => c.misused 1 ("invalid floating point argument: " ++ quotedWord word)
    | none, none =>
      match operands.filterMap integer? with
      | [last] => written options 1 1 last
      | [first, last] => written options first 1 last
      | [first, step, last] =>
        if step = 0 then c.misused 1 ("invalid Zero increment value: " ++
          quotedWord (operands[1]?.getD ""))
        else written options first step last
      | _ => c.misused 1 "missing operand"

def count (c : ProgramCall) : Effect :=
  c.withOptions 1 "clmLw" fun options names =>
    let refusal (name : String) : String := shownName name ++ ": " ++ c.missingReason name
    c.withFile 1 refusal names fun bytes =>
      let has (letter : Char) : Bool := options.isEmpty || (options.lookup letter).isSome
      let cs := Text.decodeLossy bytes
      let counts :=
        (if has 'l' then [bytes.count 10] else []) ++
        (if has 'w' then [(Text.words cs).length] else []) ++
        (if (options.lookup 'm').isSome then [cs.length] else []) ++
        (if has 'c' then [bytes.length] else [])
      let width := match counts, names with
        | [_], _ => 0
        | _, [] => 7
        | _, _ => (toString bytes.length).length
      let texts := counts.map fun (n : Nat) =>
        String.ofList (List.replicate (width - (toString n).length) ' ') ++ toString n
      c.writing (toBytes (" ".intercalate (texts ++ names.take 1) ++ "\n"))

/-- The input with bytes of a set replaced by those of another one, of which the last stands for all
that are missing; or without them. -/
def replace (c : ProgramCall) : Effect :=
  match splitOptionsFrom (OptionLetters.ofText "cCdst".toList) false none c.words with
  | .error _ => c.withOptions 1 "cCdst" fun _ _ => c.misused 1 "missing operand"
  | .ok (options, operands) =>
    let has (letter : Char) : Bool := (options.lookup letter).isSome
    let others := has 'c' || has 'C'
    let inFirst (word : String) (b : UInt8) : Bool := (byteSet word).contains b != others
    match operands with
    | [] => c.misused 1 "missing operand"
    | [word] =>
      if has 'd' then c.rewriting fun input => input.filter (!inFirst word ·)
      else if has 's' then
        c.rewriting (squeezed (((List.range 256).map UInt8.ofNat).filter (inFirst word)))
      else c.misused 1 ("missing operand after " ++ quotedWord word ++
        "\nTwo strings must be given when translating.")
    | word :: target :: _ =>
      let targets := byteSet target
      let replaced (b : UInt8) : UInt8 :=
        if others then if inFirst word b then targets.getLastD b else b
        else
          match (byteSet word).idxOf? b with
          | some k => (targets[k]?).getD (targets.getLastD b)
          | none => b
      c.rewriting fun input =>
        if has 's' then squeezed targets (input.map replaced) else input.map replaced

/-- The names of files that there are; of the others it says so. Without names it lists what lies in
the directory, where a point in front hides a file. -/
def list (c : ProgramCall) : Effect :=
  c.withOptions 2 "abcdfghiklmnopqrstuvw:xABCDFGHI:LNQRST:UXZ1" fun _ names =>
    let missing := names.filter fun name => (kindOf? c.state name).isNone
    let lying := ((pathsIn c.state c.state.directory).map fun path =>
      (nameParts path).getLastD "").filter fun name => !name.startsWith "."
    let names := if names.isEmpty then lying.mergeSort fun a b => !(b < a) else names
    { said :=
        missing.map (fun name => .message
          (c.name ++ ": cannot access " ++ quotedName name ++ ": No such file or directory")) ++
        (names.filter fun name => (kindOf? c.state name).isSome).map fun name =>
          .bytes (toBytes (name ++ "\n"))
      code := if missing.isEmpty then 0 else 2
      input := c.state.input }

def remove (c : ProgramCall) : Effect :=
  c.withOptions 1 "dfiIrRv" fun options names =>
    let isThere (name : String) : Bool :=
      (c.state.file? (absolutePath c.state.directory name)).isSome
    let missing := if (options.lookup 'f').isSome then [] else names.filter (!isThere ·)
    { said := missing.map fun name => .message
        (c.name ++ ": cannot remove " ++ quotedName name ++ ": No such file or directory")
      code := codeOf missing.isEmpty
      removed := names.map (absolutePath c.state.directory)
      input := c.state.input }

def isSpan (word : String) : Bool :=
  let cs := word.toList
  let cs := if ['s', 'm', 'h', 'd'].contains (cs.getLastD ' ') then cs.dropLast else cs
  !cs.isEmpty && cs.all (fun c => c.isDigit || c = '.') && cs.any Char.isDigit

def sleep (c : ProgramCall) : Effect :=
  c.withOptions 1 "" fun _ spans =>
    match spans, spans.find? (!isSpan ·) with
    | [], _ => c.misused 1 "missing operand"
    | _, some span => c.misused 1 ("invalid time interval " ++ quotedWord span)
    | _, none => { input := c.state.input }

/-- The words with blanks between them. Letters behind a minus sign, in front, can ask for escapes
and for no line feed. -/
def echo (c : ProgramCall) : Effect :=
  let isOption (word : String) : Bool :=
    match word.toList with
    | '-' :: c :: cs => (c :: cs).all ['n', 'e', 'E'].contains
    | _ => false
  let letters := ((c.words.takeWhile isOption).flatMap String.toList).filter (· ≠ '-')
  let text := " ".intercalate (c.words.dropWhile isOption)
  let escapes := (letters.filter (· ≠ 'n')).getLast? = some 'e'
  let (written, ended) := if escapes then escapedText text else (text.toList, false)
  c.writing (toBytes (String.ofList
    (if ended || letters.contains 'n' then written else written ++ ['\n'])))

def effect? (c : ProgramCall) (program : String) : Option Effect :=
  match program with
  | "true" | "sync" => some { input := c.state.input }
  | "false" => some { code := 1, input := c.state.input }
  | "echo" => some c.echo
  | "sleep" => some c.sleep
  | "ls" => some c.list
  | "rm" => some c.remove
  | "cat" => some (c.withOptions 1 "benstuvAET" fun _ names => c.concatenate names)
  | "head" => some (c.part "c:n:qvz" firstPart)
  | "tail" => some (c.part "c:n:fFqs:vz" lastPart)
  | "sort" => some c.sort
  | "seq" => some c.sequence
  | "wc" => some c.count
  | "tr" => some c.replace
  | "printf" | "test" | "[" | "pwd" => ownEffect? c.state program c.words
  | _ => none

end ProgramCall

/-- The directories that programs lie in, the one that is searched first in front. -/
def programDirectories : List String := ["/usr/bin", "/bin"]

def programOfPath? (word : String) : Option String :=
  programDirectories.findSome? fun directory =>
    match word.dropPrefix? (directory ++ "/") with
    | some name => if name.contains '/' then none else some name.toString
    | none => none

def program? (s : State) (word : String) (words : List String) : Option Effect :=
  ProgramCall.effect? ⟨word, words, s⟩ ((programOfPath? word).getD word)

end TestBench.Shell
