import TestBench.Value.SetOrder
import TestBench.Yaml.Node.Merge
import TestBench.Yaml.Node.Reader
import TestBench.Yaml.Scalar.Value

/-! What nodes stand for. A value is made of every node once, when it is first met, but a collection
is filled only later: collections wait in the order in which they were met. So of several mistakes
in a text the one nearest the root counts, and a collection can hold itself. -/
namespace TestBench.Yaml

/-- What is made of a node: a value by itself, or a collection that holds what is made of other
nodes. -/
inductive Made where
  | value (v : Value)
  | list (items : List NodeId)
  | pairs (items : List (NodeId × NodeId))
  | mapping (entries : List (Value × NodeId))
  | set (items : List Value)
  deriving Inhabited, Repr

/-- The nodes, what was made of them, and the collections that are still to be filled. -/
structure MakerState where
  graph : Graph
  made : Array (Option Made)
  waiting : List NodeId := []

abbrev Maker := StateT MakerState (Except Fault)

/-- A key of a mapping that is being filled. What is no number equals nothing, but it is the same
key if it is the same value: all that are written as such are one, others are told apart by their
nodes. -/
structure Key where
  value : Value
  source : Option NodeId

namespace Key

def isSame (k l : Key) : Bool :=
  match k.value, l.value with
  | .float .nan, .float .nan => k.source == l.source
  | v, w => v.sameKey w

def put (k : Key) (id : NodeId) : List (Key × NodeId) → List (Key × NodeId)
  | [] => [(k, id)]
  | (l, other) :: rest => if l.isSame k then (l, id) :: rest else (l, other) :: put k id rest

end Key

def valueOfNode (n : Node) (text : String) : Except Fault Value :=
  match n.tag, n.body with
  | .timestamp, .mapping _ => .error (.notText "list")
  | tag, _ => valueOfText tag text.toList

namespace Maker

def invalid {α : Type} : Maker α :=
  throw Fault.invalidYaml

def node (id : NodeId) : Maker Node := do
  return (← get).graph.node id

def keep (id : NodeId) (m : Made) : Maker Unit :=
  modify fun s => { s with made := s.made.setIfInBounds id (some m) }

/-- Meets a node. If it is met for the first time, its value is made, or it waits to be filled. -/
def meet (id : NodeId) : Maker Unit := do
  let s ← get
  if (s.made.getD id none).isNone then
    let n := s.graph.node id
    if n.tag.isCollection then
      keep id (.list [])
      modify fun s => { s with waiting := s.waiting ++ [id] }
    else
      match s.graph.text? id with
      | none => invalid
      | some text => keep id (.value (← valueOfNode n text))

def meetKey (id : NodeId) : Maker Key := do
  meet id
  let s ← get
  match s.made.getD id none with
  | some (.value v) =>
    let text := (s.graph.text? id).getD ""
    return ⟨v, if isNotNumber text.toList then none else some id⟩
  | _ => invalid

def meetEntry (entry : NodeId × NodeId) : Maker (Key × NodeId) := do
  let key ← meetKey entry.1
  meet entry.2
  return (key, entry.2)

def meetPair (id : NodeId) : Maker (NodeId × NodeId) := do
  match (← node id).body with
  | .mapping [(k, v)] =>
    meet k
    meet v
    return (k, v)
  | _ => invalid

/-- The entries of a mapping, of which later ones replace the values of earlier ones. -/
def entries (id : NodeId) : Maker (List (Value × NodeId)) := do
  let s ← get
  let graph ← s.graph.merge id
  set { s with graph }
  let found ← (graph.node id).entries.mapM meetEntry
  let kept := found.foldl (fun kept entry => Key.put entry.1 entry.2 kept) []
  return kept.map fun entry => (entry.1.value, entry.2)

def fill (id : NodeId) : Maker Unit := do
  let n ← node id
  match n.tag, n.body with
  | .sequence, .sequence items =>
    items.forM meet
    keep id (.list items)
  | .orderedMap, .sequence items | .pairs, .sequence items =>
    keep id (.pairs (← items.mapM meetPair))
  | .mapping, .mapping _ => keep id (.mapping (← entries id))
  | .set, .mapping _ => keep id (.set (Value.setOrder ((← entries id).map (·.1))))
  | _, _ => invalid

def fillWaiting : Nat → Maker Unit
  | 0 => pure ()
  | fuel + 1 => do
    match (← get).waiting with
    | [] => pure ()
    | id :: rest =>
      modify fun s => { s with waiting := rest }
      fill id
      fillWaiting fuel

end Maker

/-- What is made of the nodes of a graph, all those that the root needs. -/
def makeValues (g : Graph) (root : NodeId) : Except Fault (Array (Option Made)) := do
  let make : Maker Unit := do
    Maker.meet root
    Maker.fillWaiting g.size
  let (_, s) ← make.run { graph := g, made := Array.replicate g.size none }
  return s.made

/-- A value, and the labels in it that stand for collections around it. -/
structure Closing where
  value : Value
  labels : List Nat
  deriving Inhabited

namespace Closing

/-- A collection of closed values. A collection that holds itself, or one around it, is a knot. -/
def collect (label : Nat) (parts : List Closing) (v : Value) : Closing :=
  let labels := (parts.flatMap (·.labels)).eraseDups
  ⟨if labels.isEmpty then v else .knot label v, labels.filter (· ≠ label)⟩

end Closing

/-- The value of a node, without looking at more than `fuel` collections inside each other; `around`
are the collections around it. A value that needs none of these is the same everywhere, and is
kept. -/
def closeValue (made : Array (Option Made)) :
    Nat → List NodeId → NodeId → StateM (Array (Option Value)) Closing
  | 0, _, _ => return ⟨.null, []⟩
  | fuel + 1, around, id => do
    let m := (made.getD id none).getD (.list [])
    match m, (← get).getD id none with
    | .value v, _ => return ⟨v, []⟩
    | _, some v => return ⟨v, []⟩
    | m, none =>
      if around.contains id then return ⟨.again id, [id]⟩
      let close := closeValue made fuel (id :: around)
      let closing ← match m with
        | .value v => pure ⟨v, []⟩
        | .set items => pure ⟨.set items, []⟩
        | .list items => do
          let parts ← items.mapM close
          pure (.collect id parts (.list (parts.map (·.value))))
        | .mapping entries => do
          let parts ← entries.mapM fun entry => close entry.2
          let values := parts.map (·.value)
          pure (.collect id parts (.mapping ((entries.map (·.1)).zip values)))
        | .pairs items => do
          let parts ← items.mapM fun item => do
            return [← close item.1, ← close item.2]
          let tuples := parts.map fun pair => Value.tuple (pair.map (·.value))
          pure (.collect id parts.flatten (.list tuples))
      if closing.labels.isEmpty then
        modify fun kept => kept.setIfInBounds id (some closing.value)
      return closing

/-- The value that a text writes; a text without a document writes null. -/
def valueOf (s : Source) : Except Fault Value := do
  match ← nodesOf s with
  | (none, _) => return .null
  | (some root, g) =>
    let made ← makeValues g root
    let (closing, _) := (closeValue made (g.size + 1) [] root).run (Array.replicate g.size none)
    return closing.value

end TestBench.Yaml
