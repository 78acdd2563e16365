import TestBench.Shell.File

/-! Words that state a condition: tests of one word or two, negated, joined, or in brackets. A word
is an operator only where an operand cannot be meant. Main definition: `Condition.holds`. -/
namespace TestBench.Shell.Condition

inductive Fault where
  | unexpected (word : String)
  | argumentExpected (operator : String)
  | bracketExpected
  | notNumber (word : String)
  deriving DecidableEq, Repr

namespace Fault

def message : Fault → String
  | .unexpected word =>
    if word.isEmpty then "unexpected operator" else word ++ ": unexpected operator"
  | .argumentExpected operator => operator ++ ": argument expected"
  | .bracketExpected => "closing paren expected"
  | .notNumber word => "Illegal number: " ++ word

end Fault

def unaryOperators : List String :=
  ["-n", "-z", "-e", "-f", "-d", "-s", "-r", "-w", "-x", "-L", "-h", "-p", "-t", "-b", "-c", "-S",
    "-u", "-g", "-k", "-O", "-G"]

def binaryOperators : List String :=
  ["=", "!=", "<", ">", "-eq", "-ne", "-lt", "-le", "-gt", "-ge", "-nt", "-ot", "-ef"]

def unary (s : State) (operator word : String) : Except Fault Bool := do
  let kind := kindOf? s word
  let path := absolutePath s.directory word
  match operator with
  | "-n" => return !word.isEmpty
  | "-z" => return word.isEmpty
  | "-t" => if (wideInteger? word).isSome then return false else throw (.notNumber word)
  | "-e" | "-r" | "-w" | "-O" | "-G" => return kind.isSome
  | "-f" => return kind == some .regular
  | "-c" => return kind == some .device && deviceFiles.contains path
  | "-s" =>
    return kind == some .directory || knownFiles.contains path ||
      (s.file? path).any (!·.isEmpty)
  | "-d" | "-x" => return kind == some .directory
  | "-k" => return path = "/tmp" || path = "/var/tmp" || path = "/dev/shm"
  | "-L" | "-h" =>
    return kind.isSome &&
      (["/bin", "/lib", "/sbin", "/dev/fd"].contains path ||
        ["/dev/stdin", "/dev/stdout", "/dev/stderr"].contains path)
  | _ => return false

def number (word : String) : Except Fault Int :=
  match wideInteger? word with
  | some n => .ok n
  | none => .error (.notNumber word)

/-- The place of a file among those that commands have written, the last one of which comes first;
others are older than all of them. -/
def agePlace? (s : State) (word : String) : Option Nat :=
  (kindOf? s word).map fun _ =>
    (s.files.map (·.1)).idxOf (absolutePath s.directory word)

def binary (s : State) (left operator right : String) : Except Fault Bool := do
  match operator with
  | "=" => return left == right
  | "!=" => return left != right
  | "<" => return left < right
  | ">" => return right < left
  | "-ef" =>
    return (kindOf? s left).isSome &&
      absolutePath s.directory left == absolutePath s.directory right
  | "-nt" | "-ot" =>
    match agePlace? s left, agePlace? s right with
    | some l, some r => return if operator = "-nt" then l < r else r < l
    | _, _ => return false
  | _ =>
    let m ← number left
    let n ← number right
    return match operator with
      | "-eq" => m = n
      | "-ne" => m ≠ n
      | "-lt" => m < n
      | "-le" => m ≤ n
      | "-gt" => n < m
      | _ => n ≤ m

/-- Whether the first of some words is a test of one word: another word has to follow, and not a
test of two words that takes this one. -/
def startsUnary : List String → Bool
  | operator :: _ :: [] => unaryOperators.contains operator
  | operator :: next :: _ :: _ =>
    unaryOperators.contains operator && !binaryOperators.contains next
  | _ => false

mutual

def anyOf (s : State) : Nat → List String → Except Fault (Bool × List String)
  | 0, words => return (false, words)
  | fuel + 1, words => do
    let (first, rest) ← allOf s fuel words
    match rest with
    | "-o" :: rest =>
      let (second, rest) ← anyOf s fuel rest
      return (first || second, rest)
    | rest => return (first, rest)

def allOf (s : State) : Nat → List String → Except Fault (Bool × List String)
  | 0, words => return (false, words)
  | fuel + 1, words => do
    let (first, rest) ← negated s fuel words
    match rest with
    | "-a" :: rest =>
      let (second, rest) ← allOf s fuel rest
      return (first && second, rest)
    | rest => return (first, rest)

def negated (s : State) : Nat → List String → Except Fault (Bool × List String)
  | 0, words => return (false, words)
  | fuel + 1, words => do
    match words with
    | "!" :: rest =>
      let (holds, rest) ← negated s fuel rest
      return (!holds, rest)
    | words => single s fuel words

def single (s : State) : Nat → List String → Except Fault (Bool × List String)
  | 0, words => return (false, words)
  | fuel + 1, words => do
    match words with
    | [] => return (false, [])
    | [word] =>
      if unaryOperators.contains word then return (true, [])
      else return (!word.isEmpty, [])
    | "(" :: ")" :: rest => return (false, rest)
    | word :: next :: rest =>
      if startsUnary words then return (← unary s word next, rest)
      else if binaryOperators.contains next then
        match rest with
        | right :: rest => return (← binary s word next right, rest)
        | [] => throw (.argumentExpected next)
      else if word = "(" then
        match ← anyOf s fuel (next :: rest) with
        | (holds, ")" :: rest) => return (holds, rest)
        | _ => throw .bracketExpected
      else return (!word.isEmpty, next :: rest)

end

/-- Whether words that are a single condition or joined ones hold; nothing may be left of them. -/
def whole (s : State) (words : List String) : Except Fault Bool := do
  match ← anyOf s (6 * words.length + 6) words with
  | (holds, []) => return holds
  | (_, rest) => throw (.unexpected ((words[words.length - rest.length - 1]?).getD ""))

/-- Whether the condition that words state holds, behind negations that have been passed. Three
words are a test of two words if they can be one; else three or four words lose their brackets or a
negation first, all of which count as one. -/
def holdsBehind (negated : Bool) (s : State) (words : List String) : Except Fault Bool := do
  let result (holds : Except Fault Bool) : Except Fault Bool := return (← holds) != negated
  match words with
  | [] => return false
  | [a, b, c] =>
    if binaryOperators.contains b then result (binary s a b c)
    else if a = "(" && c = ")" then result (whole s [b])
    else if a = "!" then return !(← whole s [b, c])
    else result (whole s words)
  | [a, b, c, d] =>
    if a = "(" && d = ")" then result (whole s [b, c])
    else if a = "!" then holdsBehind true s [b, c, d]
    else result (whole s words)
  | words => result (whole s words)
termination_by words.length

def holds (s : State) (words : List String) : Except Fault Bool :=
  holdsBehind false s words

end TestBench.Shell.Condition
