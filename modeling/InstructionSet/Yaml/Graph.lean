import InstructionSet.Yaml.Fault
import InstructionSet.Yaml.Tag

/-!
# Graphs of nodes

A document is a graph: an alias makes one node stand in several places, and may
make a collection contain itself. The nodes are numbered in the order in which
they begin.
-/

set_option autoImplicit false

namespace InstructionSet.Yaml

abbrev NodeId := Nat

inductive Content where
  | scalar (value : String)
  | sequence (items : List NodeId)
  | mapping (entries : List (NodeId × NodeId))
deriving Repr

def Content.kind : Content → NodeKind
  | .scalar _ => .scalar
  | .sequence _ => .sequence
  | .mapping _ => .mapping

structure Node where
  tag : String
  content : Content
  mark : Mark
deriving Repr

/-- The nodes of a document and which of them is its root. `hasLoop` says whether
a collection contains itself. -/
structure Graph where
  nodes : Array Node
  root : NodeId
  hasLoop : Bool
deriving Repr

def Graph.node (graph : Graph) (id : NodeId) : Node :=
  graph.nodes[id]?.getD ⟨StandardTag.str.name, .scalar "", {}⟩

end InstructionSet.Yaml
