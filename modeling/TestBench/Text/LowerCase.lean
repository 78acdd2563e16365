import TestBench.Text.Cased

/-! The lower case of a text, letter by letter, with the two exceptions of the Unicode standard: the
dotted capital I becomes two characters, and a capital sigma at the end of a word takes its final
form. -/
namespace TestBench.Text

def nextIsCased (cs : List Char) : Bool :=
  match cs.dropWhile isCaseIgnorable with
  | [] => false
  | c :: _ => isCased c

/-- The lower case of `c`, read between the text before it, nearest character first, and the text
after it. -/
def lowerBetween (before : List Char) (c : Char) (after : List Char) : List Char :=
  if c = '\u0130' then ['i', '\u0307']
  else if c = 'Σ' then [if nextIsCased before && !nextIsCased after then 'ς' else 'σ']
  else [lowerChar c]

/-- The lower case of a text that follows the text `before`, which is given backwards. -/
def lowerAfter (before : List Char) : List Char → List Char
  | [] => []
  | c :: cs => lowerBetween before c cs ++ lowerAfter (c :: before) cs

def lower (cs : List Char) : List Char :=
  lowerAfter [] cs

end TestBench.Text
