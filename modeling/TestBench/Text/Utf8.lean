/-! Decoding as a byte machine: between two bytes it is either at a character boundary or inside a
character, and then knows how many bytes are missing and which range the next one must lie in. A
byte that cannot continue ends the broken part before it and is read again from the boundary, so a
broken part is as long as it can be and no longer. -/
namespace TestBench.Text

inductive Utf8State where
  | boundary
  /-- `missing + 1` bytes are missing, the next of them from `low` to `high`; `code` is the number
  read so far. -/
  | inside (missing low high code : Nat)
  deriving DecidableEq, Repr

inductive Utf8Piece where
  | char (c : Char)
  | broken
  deriving DecidableEq, Repr

namespace Utf8State

def lead (b : Nat) : List Utf8Piece × Utf8State :=
  if b < 0x80 then ([.char (Char.ofNat b)], .boundary)
  else if b < 0xC2 then ([.broken], .boundary)
  else if b < 0xE0 then ([], .inside 0 0x80 0xBF (b - 0xC0))
  else if b = 0xE0 then ([], .inside 1 0xA0 0xBF 0)
  else if b = 0xED then ([], .inside 1 0x80 0x9F 0xD)
  else if b < 0xF0 then ([], .inside 1 0x80 0xBF (b - 0xE0))
  else if b = 0xF0 then ([], .inside 2 0x90 0xBF 0)
  else if b < 0xF4 then ([], .inside 2 0x80 0xBF (b - 0xF0))
  else if b = 0xF4 then ([], .inside 2 0x80 0x8F 4)
  else ([.broken], .boundary)

def step (s : Utf8State) (b : Nat) : List Utf8Piece × Utf8State :=
  match s with
  | .boundary => lead b
  | .inside missing low high code =>
    if low ≤ b ∧ b ≤ high then
      let code := code * 64 + (b - 0x80)
      match missing with
      | 0 => ([.char (Char.ofNat code)], .boundary)
      | n + 1 => ([], .inside n 0x80 0xBF code)
    else
      let (pieces, next) := lead b
      (.broken :: pieces, next)

def finish : Utf8State → List Utf8Piece
  | .boundary => []
  | .inside .. => [.broken]

def run (s : Utf8State) : List UInt8 → List Utf8Piece × Utf8State
  | [] => ([], s)
  | b :: bs =>
    let (pieces, next) := s.step b.toNat
    let (more, last) := next.run bs
    (pieces ++ more, last)

end Utf8State

def whole? : List Utf8Piece → Option (List Char)
  | [] => some []
  | .char c :: ps => (whole? ps).map (c :: ·)
  | .broken :: _ => none

def decode? (bytes : List UInt8) : Option (List Char) :=
  let (pieces, last) := Utf8State.boundary.run bytes
  whole? (pieces ++ last.finish)

/-- The text with the replacement character for each broken part. -/
def decodeLossy (bytes : List UInt8) : List Char :=
  let (pieces, last) := Utf8State.boundary.run bytes
  (pieces ++ last.finish).map fun
    | .char c => c
    | .broken => '\ufffd'

def encodeChar (c : Char) : List UInt8 :=
  let n := c.toNat
  let tail (m : Nat) : UInt8 := UInt8.ofNat (0x80 + m % 0x40)
  if n < 0x80 then [UInt8.ofNat n]
  else if n < 0x800 then [UInt8.ofNat (0xC0 + n / 0x40), tail n]
  else if n < 0x10000 then [UInt8.ofNat (0xE0 + n / 0x1000), tail (n / 0x40), tail n]
  else [UInt8.ofNat (0xF0 + n / 0x40000), tail (n / 0x1000), tail (n / 0x40), tail n]

def encode (cs : List Char) : List UInt8 :=
  cs.flatMap encodeChar

end TestBench.Text
