import TestBench.Value.Basic

/-! A set lists its items by the slots of a table in which they lie, not in the order in which they
came. The slot of a number follows from its value. Texts, days and the like have no slot that is the
same in every run; a set with one of them keeps the order in which its items came. -/
namespace TestBench.Value

def slotModulus : Nat := 0x1FFFFFFFFFFFFFFF

def slotWord (negative : Bool) (n : Nat) : Nat :=
  if !negative then n else 0x10000000000000000 - (if n = 1 then 2 else n)

/-- The number of 64 bits that the slot of a number follows from. Halving is multiplying by a power
of two, since 61 doublings change nothing in remainders of the prime. -/
def slotSeed? : Value → Option Nat
  | .float (.infinite negative) => some (slotWord negative 314159)
  | v => v.number?.map fun q =>
    let doublings := (61 - q.den.log2 % 61) % 61
    let n := q.num.natAbs * Nat.pow 2 doublings % slotModulus
    slotWord (q < 0 && n != 0) n

/-- The slots after one that are tried before the next jump: nine, unless the table ends there. -/
def nearSlots (size slot : Nat) : List Nat :=
  if slot + 9 < size then (List.range 10).map (slot + ·) else [slot]

/-- The first free slot from one on, `taken` being those that are not; at most `fuel` jumps. -/
def freeSlot (size : Nat) (taken : Nat → Bool) : Nat → Nat → Nat → Nat
  | 0, _, slot => slot
  | fuel + 1, seed, slot =>
    match (nearSlots size slot).find? fun s => !taken s with
    | some s => s
    | none =>
      let seed := seed / 32
      freeSlot size taken fuel seed ((slot * 5 + 1 + seed) % size)

/-- The size of the table for a number of items: a power of two. -/
def tableSize (count : Nat) : Nat :=
  if count < 5 then 8 else Nat.pow 2 ((2 * count).log2 + 1)

def slots (size : Nat) (seeds : List Nat) : List Nat :=
  seeds.foldl (fun found seed =>
    found ++ [freeSlot size found.contains (size + 64) seed (seed % size)]) []

def setOrder (items : List Value) : List Value :=
  match items.mapM slotSeed? with
  | none => items
  | some seeds =>
    let placed := (slots (tableSize items.length) seeds).zip items
    (placed.mergeSort fun a b => a.1 ≤ b.1).map (·.2)

end TestBench.Value
