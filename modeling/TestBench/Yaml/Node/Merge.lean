import TestBench.Fault
import TestBench.Yaml.Node.Graph

/-! A mapping can take over the entries of others: those under a merge key are put in front of its
own entries, so that its own ones win. Of several mappings the first counts most, so its entries are
put in last. A mapping that is taken over takes over its own ones first; each merge key goes when
its turn comes, so that mappings may take over each other. -/
namespace TestBench.Yaml.Graph

def mergeCount (g : Graph) : Nat :=
  g.nodes.foldl (fun count n => count + n.entries.countP fun entry => g.tag entry.1 = .merge) 0

/-- The keys that a mapping has for its own value are keys like others for the mapping itself. -/
def plainKeys (g : Graph) (entries : List (NodeId × NodeId)) : Graph :=
  entries.foldl
    (fun g entry => if g.tag entry.1 = .default then g.setTag entry.1 .text else g) g

mutual

/-- Merges into a mapping what its merge keys tell to; `merged` is what was found so far. Every
other step takes away a merge key, so `fuel` is more than twice the number of those left. -/
def mergeFrom (merged : List (NodeId × NodeId)) (id : NodeId) :
    Nat → Graph → Except Fault Graph
  | 0, _ => .error .invalidYaml
  | fuel + 1, g =>
    let entries := (g.node id).entries
    match entries.findIdx? fun entry => g.tag entry.1 = .merge with
    | some index => do
      let value := (entries.getD index (0, 0)).2
      let (more, g) ← mergeValue value fuel (g.setBody id (.mapping (entries.eraseIdx index)))
      mergeFrom (merged ++ more) id fuel g
    | none =>
      let g := g.plainKeys entries
      .ok (if merged.isEmpty then g else g.setBody id (.mapping (merged ++ entries)))
termination_by structural fuel => fuel

/-- The entries under a merge key: those of a mapping, or those of several mappings, the entries of
the last one first. -/
def mergeValue (id : NodeId) :
    Nat → Graph → Except Fault (List (NodeId × NodeId) × Graph)
  | 0, _ => .error .invalidYaml
  | fuel + 1, g =>
    match (g.node id).body with
    | .scalar _ => .error .invalidYaml
    | .mapping _ => do
      let g ← mergeFrom [] id fuel g
      return ((g.node id).entries, g)
    | .sequence items =>
      items.foldlM (fun (merged, g) item =>
        match (g.node item).body with
        | .mapping _ => do
          let g ← mergeFrom [] item fuel g
          return ((g.node item).entries ++ merged, g)
        | _ => .error .invalidYaml) ([], g)
termination_by structural fuel => fuel

end

def merge (g : Graph) (id : NodeId) : Except Fault Graph :=
  mergeFrom [] id (2 * g.mergeCount + 2) g

end TestBench.Yaml.Graph
