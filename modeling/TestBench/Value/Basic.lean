import TestBench.Calendar
import TestBench.Fault
import TestBench.Number.Binary64
import TestBench.Test

/-! The values that settings and scripts are written with. Their type is known only when they are
used, so every use of one can fail; the words for types that such failures show are
`Value.typeName`. A collection that holds itself is a knot: it has a label, and inside it the label
stands for it. What is taken out of a knot has the knot in the place of the label, so that labels
stand for something wherever they are met. -/
namespace TestBench

inductive Value where
  | null
  | bool (b : Bool)
  | int (n : Int)
  | float (x : Binary64)
  | text (s : String)
  | bytes (bs : List UInt8)
  | date (d : Date)
  | moment (m : Moment)
  | outcome (o : Outcome)
  | test (t : Test)
  | list (items : List Value)
  | tuple (items : List Value)
  | set (items : List Value)
  | mapping (entries : List (Value × Value))
  /-- A collection that holds itself. -/
  | knot (label : Nat) (v : Value)
  | again (label : Nat)
  deriving Inhabited, Repr

namespace Value

def typeName : Value → String
  | .null => "NoneType"
  | .bool _ => "bool"
  | .int _ => "int"
  | .float _ => "float"
  | .text _ => "str"
  | .bytes _ => "bytes"
  | .date _ => "datetime.date"
  | .moment _ => "datetime.datetime"
  | .outcome _ => "Outcome"
  | .test _ => "TestDescription"
  | .list _ => "list"
  | .tuple _ => "tuple"
  | .set _ => "set"
  | .mapping _ => "dict"
  | .knot _ v => v.typeName
  | .again _ => "object"

/-- Whether the value counts as given: null, false, zero and everything empty do not. -/
def isTrue : Value → Bool
  | .null => false
  | .bool b => b
  | .int n => n != 0
  | .float x => !x.isZero
  | .text s => !s.isEmpty
  | .bytes bs => !bs.isEmpty
  | .list items | .tuple items | .set items => !items.isEmpty
  | .mapping entries => !entries.isEmpty
  | .knot _ v => v.isTrue
  | .date _ | .moment _ | .outcome _ | .test _ | .again _ => true

/-- The exact value of a number; truth values are numbers. -/
def number? : Value → Option Rat
  | .bool b => some (if b then 1 else 0)
  | .int n => some n
  | .float x => x.toRat?
  | _ => none

mutual

/-- Whether a value can be a key: none that can change its contents, or holds one that can. -/
def unhashable? : Value → Option String
  | .list _ => some "list"
  | .set _ => some "set"
  | .mapping _ => some "dict"
  | .test _ => some "TestDescription"
  | .tuple items => anyUnhashable? items
  | .knot _ v => unhashable? v
  | _ => none

def anyUnhashable? : List Value → Option String
  | [] => none
  | v :: vs => (unhashable? v).or (anyUnhashable? vs)

end

mutual

/-- Whether two values are the same key. Numbers of different types are, if they are equal. -/
def sameKey : Value → Value → Bool
  | .null, .null => true
  | .text s, .text t => s == t
  | .bytes bs, .bytes cs => bs == cs
  | .date d, .date e => d == e
  | .moment m, .moment n => m.isSame n
  | .outcome o, .outcome p => o == p
  | .float (.infinite s), .float (.infinite t) => s == t
  | .tuple items, .tuple others => sameKeys items others
  | v, w =>
    match v.number?, w.number? with
    | some q, some r => q == r
    | _, _ => false

def sameKeys : List Value → List Value → Bool
  | [], [] => true
  | v :: vs, w :: ws => sameKey v w && sameKeys vs ws
  | _, _ => false

end

def putEntry (key value : Value) : List (Value × Value) → List (Value × Value)
  | [] => [(key, value)]
  | (k, v) :: rest =>
    if k.sameKey key then (k, value) :: rest else (k, v) :: putEntry key value rest

def find? (key : Value) (entries : List (Value × Value)) : Option Value :=
  (entries.find? fun e => e.1.sameKey key).map (·.2)

mutual

/-- The value with `w` in the place of a label. -/
def tie (label : Nat) (w : Value) : Value → Value
  | .again l => if l = label then w else .again l
  | .knot l v => if l = label then .knot l v else .knot l (tie label w v)
  | .list items => .list (tieItems label w items)
  | .tuple items => .tuple (tieItems label w items)
  | .set items => .set (tieItems label w items)
  | .mapping entries => .mapping (tieEntries label w entries)
  | v => v

def tieItems (label : Nat) (w : Value) : List Value → List Value
  | [] => []
  | v :: vs => tie label w v :: tieItems label w vs

def tieEntries (label : Nat) (w : Value) : List (Value × Value) → List (Value × Value)
  | [] => []
  | (k, v) :: rest => (tie label w k, tie label w v) :: tieEntries label w rest

end

/-- The value that a mapping has for a word. Only mappings can be asked. -/
def get (v : Value) (key : String) : Except Fault (Option Value) :=
  match v with
  | .mapping entries => .ok (find? (.text key) entries)
  | .knot label w => (w.get key).map fun found => found.map (tie label (.knot label w))
  | v => .error (.noAttribute v.typeName "get")

/-- The items of a value that has items: those of a list, the keys of a mapping, the characters of
a text. -/
def items (v : Value) : Except Fault (List Value) :=
  match v with
  | .list items | .tuple items | .set items => .ok items
  | .mapping entries => .ok (entries.map (·.1))
  | .text s => .ok (s.toList.map fun c => .text (String.singleton c))
  | .bytes bs => .ok (bs.map fun b => .int b.toNat)
  | .knot label w => w.items.map fun items => items.map (tie label (.knot label w))
  | v => .error (.notIterable v.typeName)

end Value

end TestBench
