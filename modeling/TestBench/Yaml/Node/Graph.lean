import TestBench.Yaml.Tag

/-! What a text writes: scalars, sequences and mappings, each with its tag. Nodes have numbers, and
hold others by their numbers, because one that is given a name can stand at several places, also
inside itself. -/
namespace TestBench.Yaml

abbrev NodeId := Nat

inductive NodeBody where
  | scalar (text : String)
  | sequence (items : List NodeId)
  | mapping (entries : List (NodeId × NodeId))
  deriving DecidableEq, Repr

structure Node where
  tag : Tag
  body : NodeBody
  deriving DecidableEq, Repr

namespace Node

def empty : Node := ⟨.null, .scalar ""⟩

def entries (n : Node) : List (NodeId × NodeId) :=
  match n.body with
  | .mapping entries => entries
  | _ => []

end Node

structure Graph where
  nodes : Array Node := #[]
  deriving DecidableEq, Repr

namespace Graph

def size (g : Graph) : Nat := g.nodes.size

def node (g : Graph) (id : NodeId) : Node :=
  g.nodes.getD id Node.empty

def tag (g : Graph) (id : NodeId) : Tag :=
  (g.node id).tag

/-- The graph with one more node, whose number is the size of the graph. -/
def add (g : Graph) (n : Node) : Graph :=
  ⟨g.nodes.push n⟩

def setBody (g : Graph) (id : NodeId) (body : NodeBody) : Graph :=
  ⟨g.nodes.modify id fun n => { n with body }⟩

def setTag (g : Graph) (id : NodeId) (tag : Tag) : Graph :=
  ⟨g.nodes.modify id fun n => { n with tag }⟩

/-- The text of a node that stands for one, looking at most at `fuel` nodes: that of a scalar, or
that of the value which a mapping has by itself. -/
def scalarText? (g : Graph) : Nat → NodeId → Option String
  | 0, _ => none
  | fuel + 1, id =>
    match (g.node id).body with
    | .scalar text => some text
    | .sequence _ => none
    | .mapping entries =>
      match entries.find? fun entry => g.tag entry.1 = .default with
      | some entry => g.scalarText? fuel entry.2
      | none => none

def text? (g : Graph) (id : NodeId) : Option String :=
  g.scalarText? (g.size + 1) id

end Graph

end TestBench.Yaml
