/-! Four characters write three bytes. Characters that are no digits are passed over; equals signs
fill up the last group and end the text. -/
namespace TestBench.Text

def base64Digit? (c : Char) : Option Nat :=
  if c.isUpper then some (c.toNat - 'A'.toNat)
  else if c.isLower then some (c.toNat - 'a'.toNat + 26)
  else if c.isDigit then some (c.toNat - '0'.toNat + 52)
  else if c = '+' then some 62
  else if c = '/' then some 63
  else none

/-- The byte that a digit completes, after `count` digits of the group of which the last was
`last`. -/
def base64Byte (count last digit : Nat) : List UInt8 :=
  match count with
  | 1 => [UInt8.ofNat (last % 64 * 4 + digit / 16)]
  | 2 => [UInt8.ofNat (last % 16 * 16 + digit / 4)]
  | 3 => [UInt8.ofNat (last % 4 * 64 + digit)]
  | _ => []

/-- The bytes of a text after `count` digits of a group, of which the last was `last`, and `fill`
equals signs. A group must be complete or filled up. -/
def base64From (count last fill : Nat) : List Char → Option (List UInt8)
  | [] => if count = 0 then some [] else none
  | '=' :: cs =>
    if 2 ≤ count then
      if 4 ≤ count + fill + 1 then some [] else base64From count last (fill + 1) cs
    else base64From count last fill cs
  | c :: cs =>
    match base64Digit? c with
    | none => base64From count last fill cs
    | some d => (base64From ((count + 1) % 4) d 0 cs).map (base64Byte count last d ++ ·)

def base64? (cs : List Char) : Option (List UInt8) :=
  base64From 0 0 0 cs

end TestBench.Text
