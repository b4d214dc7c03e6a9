import InstructionSet.Yaml.Event.Grammar
import InstructionSet.Yaml.Graph

/-!
# Graphs from events

The events of a document are taken one by one. The collections that are open are
kept on a stack; a node that is complete is put into the innermost of them. An
alias stands for the node of its anchor, which may still be open.
-/

set_option autoImplicit false

namespace InstructionSet.Yaml

inductive Frame where
  | sequence (id : NodeId) (items : List NodeId)
  | mapping (id : NodeId) (key : Option NodeId) (entries : List (NodeId × NodeId))

def Frame.id : Frame → NodeId
  | .sequence id _ => id
  | .mapping id _ _ => id

/-- Puts a node into an open collection: in a mapping, keys and values take turns. -/
def Frame.put (item : NodeId) : Frame → Frame
  | .sequence id items => .sequence id (item :: items)
  | .mapping id none entries => .mapping id (some item) entries
  | .mapping id (some key) entries => .mapping id none ((key, item) :: entries)

def Frame.content : Frame → Content
  | .sequence _ items => .sequence items.reverse
  | .mapping _ _ entries => .mapping entries.reverse

structure Builder where
  nodes : Array Node := #[]
  anchors : List (String × NodeId) := []
  frames : List Frame := []
  hasLoop : Bool := false

namespace Builder

def mark (builder : Builder) (id : NodeId) : Mark := (builder.nodes[id]?.map Node.mark).getD {}

/-- Puts a complete node where it belongs; without an open collection it is the
root. -/
def put (builder : Builder) (id : NodeId) : Builder × Option NodeId :=
  match builder.frames with
  | [] => (builder, some id)
  | frame :: frames => ({ builder with frames := frame.put id :: frames }, none)

def add (builder : Builder) (properties : Properties) (mark : Mark) (tag : String)
    (content : Content) : Except Fault (Builder × NodeId) := do
  let id := builder.nodes.size
  let nodes := builder.nodes.push ⟨tag, content, mark⟩
  match properties.anchor with
  | none => return ({ builder with nodes }, id)
  | some anchor => return ({ builder with nodes, anchors := (anchor, id) :: builder.anchors }, id)

/-- An anchor names one node of a document. -/
def checkAnchor (builder : Builder) (properties : Properties) (mark : Mark) :
    Except Fault Unit :=
  match properties.anchor with
  | none => .ok ()
  | some anchor =>
      match builder.anchors.lookup anchor with
      | none => .ok ()
      | some first =>
          .error (.located
            { activity := some (.firstAnchor anchor), began := some (builder.mark first)
              problem := .secondAnchor, mark })

/-- The tag of a node: as given, or as its kind or its text tells. -/
def tagOr (properties : Properties) (default : StandardTag) : String :=
  match properties.tag with
  | none => default.name
  | some tag => if tag == "!" then default.name else tag

def begin (builder : Builder) (properties : Properties) (mark : Mark) (default : StandardTag)
    (content : Content) (frame : NodeId → Frame) : Except Fault Builder := do
  builder.checkAnchor properties mark
  let (builder, id) ← builder.add properties mark (tagOr properties default) content
  return { builder with frames := frame id :: builder.frames }

def finish (builder : Builder) : Builder × Option NodeId :=
  match builder.frames with
  | [] => (builder, none)
  | frame :: frames =>
      let nodes := builder.nodes.modify frame.id fun node => { node with content := frame.content }
      put { builder with nodes, frames } frame.id

/-- Takes one event. The answer names the root when it is complete. -/
def step (builder : Builder) (event : Event) : Except Fault (Builder × Option NodeId) := do
  match event.kind with
  | .alias name =>
      match builder.anchors.lookup name with
      | none => throw (.located { problem := .undefinedAlias name, mark := event.mark })
      | some id =>
          let isOpen := builder.frames.any fun frame => frame.id == id
          return { builder with hasLoop := builder.hasLoop || isOpen }.put id
  | .scalar properties plain value =>
      builder.checkAnchor properties event.mark
      let resolved := if plain then Plain.tag value else .str
      let (builder, id) ←
        builder.add properties event.mark (tagOr properties resolved) (.scalar value)
      return builder.put id
  | .sequenceStart properties =>
      return (← builder.begin properties event.mark .seq (.sequence []) (.sequence · []), none)
  | .mappingStart properties =>
      return (← builder.begin properties event.mark .map (.mapping []) (.mapping · none []), none)
  | .sequenceEnd | .mappingEnd => return builder.finish
  | _ => return (builder, none)

end Builder

namespace Parse

def root : Nat → Builder → Parse Graph
  | 0, builder => return ⟨builder.nodes, 0, builder.hasLoop⟩
  | bound + 1, builder => do
      let event ← nextEvent
      match builder.step event with
      | .error fault => throw fault
      | .ok (builder, some id) => return ⟨builder.nodes, id, builder.hasLoop⟩
      | .ok (builder, none) => root bound builder

/-- A bound on the number of events of a document. -/
def eventBound : Parse Nat := return 8 * ((← get).lexer.bound + 4)

def graph : Parse Graph := do
  let graph ← root (← eventBound) {}
  let _ ← nextEvent
  return graph

def nextGraph? : Parse (Option Graph) := do
  let event ← nextEvent
  if event.kind == .streamEnd then return none
  else return some (← graph)

def singleGraph? : Parse (Option Graph) := do
  match ← nextGraph? with
  | none => return none
  | some graph =>
      let event ← nextEvent
      if event.kind == .streamEnd then return some graph
      else
        throw (.located
          { activity := some .singleDocument, began := some (graph.node graph.root).mark
            problem := .anotherDocument, mark := event.mark })

end Parse

end InstructionSet.Yaml
