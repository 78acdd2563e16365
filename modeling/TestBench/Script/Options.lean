import TestBench.Script.Expr
import TestBench.Stop
import TestBench.Value.Expectation

/-! A primitive takes a path and options. The options come as a mapping, or as pairs, and by name;
the named ones win. Options that a primitive does not take are an error. -/
namespace TestBench

inductive Primitive where
  | test
  | expand
  deriving DecidableEq, Repr

namespace Primitive

def name : Primitive → String
  | .test => "test"
  | .expand => "expand"

def fullName (p : Primitive) : String :=
  "DslLoader." ++ p.name

def options : Primitive → List String
  | .test => ["expected", "skip", "args", "comment"]
  | .expand => ["disabled"]

end Primitive

structure Call where
  path : Value
  options : Option Value
  named : List (String × Value)

namespace Call

/-- Evaluates arguments from the left: the path, the options, the named options. -/
def ofArguments (vars : Variables) (a : Arguments) : Except Fault Call := do
  let path ← a.path.eval vars
  let options ← match a.options with
    | none => pure none
    | some e => (e.eval vars).map some
  let named ← Expr.evalEntries vars a.named
  return { path, options, named }

def given (c : Call) : List String :=
  ["self", "path"] ++ (if c.options.isSome then ["options"] else [])

/-- Gives the arguments their places: an argument named `options` is the mapping of options, and no
argument may be given twice. -/
def bind (p : Primitive) (c : Call) : Except Fault Call :=
  match c.named.find? fun (k, _) => c.given.contains k with
  | some (k, _) => .error (.argumentRepeated p.fullName k)
  | none =>
    match c.named.find? (·.1 == "options") with
    | none => .ok c
    | some (_, v) => .ok { c with options := some v, named := c.named.filter (·.1 != "options") }

end Call

namespace Value

def toPair (index : Nat) (v : Value) : Except Fault (Value × Value) :=
  match v.items with
  | .error _ => .error (.pairExpected index)
  | .ok [k, w] =>
    match k.unhashable? with
    | some type => .error (.unhashable type)
    | none => .ok (k, w)
  | .ok items => .error (.pairLength index items.length)

def pairEntries : Nat → List (Value × Value) → List Value → Except Fault (List (Value × Value))
  | _, entries, [] => .ok entries
  | index, entries, v :: vs => do
    let (k, w) ← v.toPair index
    pairEntries (index + 1) (putEntry k w entries) vs

/-- The entries of a mapping, or of a value that lists pairs. A value that counts as not given has
none. -/
def toEntries (v : Value) : Except Fault (List (Value × Value)) :=
  if !v.isTrue then .ok []
  else
    match v with
    | .mapping entries => .ok entries
    | v => do pairEntries 0 [] (← v.items)

end Value

def textKeys? : List Value → Option (List String)
  | [] => some []
  | .text s :: vs => (textKeys? vs).map (s :: ·)
  | _ :: _ => none

/-- The complaint about unknown options. Keys that are no texts cannot be listed. -/
def unknownOptionsStop (p : Primitive) (keys : List Value) : Stop :=
  match textKeys? keys, keys with
  | some names, _ =>
    .failure (.unknownOptions p.name (names.mergeSort fun a b => decide (a ≤ b)))
  | none, first :: second :: rest =>
    if (first :: second :: rest).all (·.number?.isSome) then
      .fault (.textExpected 0 first.typeName)
    else .fault (.unordered second.typeName first.typeName)
  | none, keys => .fault (.textExpected 0 ((keys.head?.map Value.typeName).getD ""))

/-- The options of a call, the named ones winning. -/
def Call.mergedOptions (p : Primitive) (c : Call) : Except Stop (List (Value × Value)) :=
  match (c.options.getD .null).toEntries with
  | .error f => .error (.fault f)
  | .ok entries =>
    let merged := c.named.foldl (fun es (k, v) => Value.putEntry (.text k) v es) entries
    let unknown := (merged.map (·.1)).filter fun k =>
      !p.options.any fun name => k.sameKey (.text name)
    if unknown.isEmpty then .ok merged else .error (unknownOptionsStop p unknown)

end TestBench
