/-! The numbers from U+D800 to U+DFFF are no characters: two of them, one from each half of the
range, write a character outside the first plane. A text can still be made of single halves. Each
half is kept as one of the last code points, which no text uses, so that it is told apart from every
character and can be shown by its own number. -/
namespace TestBench.Text

def firstHalf : Nat := 0xD800

def halfCount : Nat := 0x800

def firstKept : Nat := 0x10F800

/-- The character of a number below 0x110000, or what the half of that number is kept as. -/
def charOfNumber (n : Nat) : Char :=
  if n < firstHalf ∨ firstHalf + halfCount ≤ n then Char.ofNat n
  else Char.ofNat (n - firstHalf + firstKept)

def halfNumber? (c : Char) : Option Nat :=
  if firstKept ≤ c.toNat then some (c.toNat - firstKept + firstHalf) else none

end TestBench.Text
