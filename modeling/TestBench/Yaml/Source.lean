import TestBench.Fault
import TestBench.Text.LineBreak
import TestBench.Yaml.Character

/-! A file is read in portions, as its text is asked for. A portion that is not UTF-8, or that holds
a character which no text may hold, is a fault only if the reading gets that far: what stands before
it can still be wrong for another reason. -/
namespace TestBench.Yaml

/-- A text, and the fault that keeps it from being read further. -/
structure Source where
  text : List Char
  stop : Option Fault := none
  deriving DecidableEq, Repr

namespace Source

def portion : Nat := 4096

def firstPortions : Nat := 2 * portion

/-- The number of characters in the portions before the one in which a character stands. -/
def portionsBefore (index : Nat) : Nat :=
  if index < firstPortions then 0 else index / portion * portion

/-- The text up to the portion that holds a character which no text may hold. -/
def upToForbidden (s : Source) : Source :=
  match s.text.findIdx? (!isAllowed ·) with
  | none => s
  | some index => ⟨s.text.take (portionsBefore index), some .invalidYaml⟩

def ofBytes (bytes : List UInt8) : Source :=
  let (text, broken) := Text.decodeBlocks .boundary (Text.blocks bytes)
  if broken then
    let text := Text.unifyBreaks (Text.dropPendingReturn text)
    upToForbidden ⟨text.take (portionsBefore text.length), some .invalidUtf8⟩
  else upToForbidden ⟨Text.unifyBreaks text, none⟩

end Source

end TestBench.Yaml
