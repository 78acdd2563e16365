import TestBench.Shell.Condition
import TestBench.Shell.Format

/-! Commands that neither change the shell nor run others: what they write and the code they end
with depend on their words, their input and the files alone. Main definition: `ownEffect?`, for
those that the shell has itself. -/
namespace TestBench.Shell

/-- What a command says: something that it writes, or what is wrong; that is signed with the name
of the command, or is said as it is. -/
inductive Saying where
  | bytes (bs : List UInt8)
  | complaint (text : String)
  | message (text : String)

/-- What a command does: what it says, its code, the input it leaves, and the files it removes. -/
structure Effect where
  said : List Saying := []
  code : Nat := 0
  input : List UInt8
  removed : List String := []

def codeOf (b : Bool) : Nat :=
  if b then 0 else 1

def conditionEffect (s : State) (words : List String) : Effect :=
  match Condition.holds s words with
  | .ok b => { code := codeOf b, input := s.input }
  | .error e => { said := [.complaint e.message], code := 2, input := s.input }

def formatEffect (s : State) (words : List String) : Effect :=
  match words with
  | [] =>
    { said := [.complaint "usage: printf format [arg ...]"], code := 2, input := s.input }
  | format :: arguments =>
    let w := formatted format arguments
    { said := w.complaints.map .complaint ++ [.bytes (toBytes (String.ofList w.text))]
      code := if w.malformed then 2 else codeOf w.complaints.isEmpty
      input := s.input }

def ownEffect? (s : State) (name : String) (words : List String) : Option Effect :=
  match name with
  | ":" | "true" => some { input := s.input }
  | "false" => some { code := 1, input := s.input }
  | "echo" => some { said := [.bytes (toBytes (echoed words))], input := s.input }
  | "printf" => some (formatEffect s words)
  | "test" => some (conditionEffect s words)
  | "[" =>
    if words.getLast? = some "]" then some (conditionEffect s words.dropLast)
    else some { said := [.complaint "missing ]"], code := 2, input := s.input }
  | "pwd" => some { said := [.bytes (toBytes (s.directory ++ "\n"))], input := s.input }
  | _ => none

end TestBench.Shell
