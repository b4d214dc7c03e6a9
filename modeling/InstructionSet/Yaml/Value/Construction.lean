import InstructionSet.Yaml.Graph
import InstructionSet.Yaml.Value.Scalar
import InstructionSet.Yaml.Value.SetOrder

/-!
# Values from graphs

Scalars get their values at once; a collection is filled only after all nodes that
were met before it, so the faults of a document come in order of depth. A node
gets one value however often it is met. Merge keys are replaced by the entries of
the mappings they name, which never override a mapping's own.

`Graph.document` writes the finished collections out as a document; collections on
a loop stay references.
-/

set_option autoImplicit false

namespace InstructionSet.Yaml

/-- What a node denotes: a value, or a collection that is filled separately. -/
inductive Item where
  | value (value : Value)
  | collection (id : NodeId)

inductive Filled where
  | list (items : List Item)
  | pairs (items : List (Item × Item))
  | set (members : List Value)
  | mapping (entries : List (Value × Item))

/-- The state of construction: the graph with merge keys replaced as far as
mappings have been filled, the items of nodes met, the collections still to be
filled in order, and those filled. -/
structure Construction where
  graph : Graph
  items : List (NodeId × Item) := []
  waiting : List NodeId := []
  filled : List (NodeId × Filled) := []

abbrev Construct (α : Type) := StateT Construction (Except Fault) α

namespace Construct

def node (id : NodeId) : Construct Node := return (← get).graph.node id

def fail {α : Type} (mark : Mark) (problem : Problem) : Construct α :=
  throw (.located { problem, mark })

def failIn {α : Type} (activity : Activity) (began mark : Mark) (problem : Problem) :
    Construct α :=
  throw (.located { activity := some activity, began := some began, problem, mark })

/-! ## Scalars -/

/-- The text of a scalar node. A mapping with the key `=` stands for the scalar
under that key; the bound is spent only when such mappings lead round in a circle. -/
def scalarText : Nat → NodeId → Construct String
  | 0, _ => throw (.scalar .endless)
  | bound + 1, id => do
      let node ← node id
      match node.content with
      | .scalar value => return value
      | .sequence _ => fail node.mark (.wrongNode .scalar .sequence)
      | .mapping entries =>
          let graph := (← get).graph
          match entries.find? fun (key, _) =>
              (graph.node key).tag == StandardTag.value.name with
          | some (_, value) => scalarText bound value
          | none => fail node.mark (.wrongNode .scalar .mapping)

/-- Gives the value that reading a scalar's text gives. -/
def orFail (result : Except ScalarFault Value) : Construct Value :=
  match result with
  | .ok value => return value
  | .error fault => throw (.scalar fault)

def binary (text : String) (mark : Mark) : Construct Value := do
  match Text.encodingFault? .ascii 0 (Text.codes text.toList) with
  | some fault => fail mark (.notAscii fault)
  | none =>
      match Base64.decode text.toList with
      | .ok bytes => return .bytes bytes
      | .error fault => fail mark (.undecodableBase64 fault)

def scalar (tag : StandardTag) (id : NodeId) : Construct Value := do
  let text ← scalarText ((← get).graph.nodes.size + 1) id
  match tag with
  | .null => return .null
  | .bool => orFail (ScalarValue.bool text)
  | .int => orFail (ScalarValue.int text.toList)
  | .float => orFail (ScalarValue.float id text.toList)
  | .binary => binary text (← node id).mark
  | .timestamp =>
      match (← node id).content with
      | .scalar _ => orFail (ScalarValue.timestamp text.toList)
      | _ => throw (.scalar .noTimestampText)
  | _ => return .text text

def remember (id : NodeId) (item : Item) : Construct Item := do
  modify fun state => { state with items := (id, item) :: state.items }
  return item

/-- The item of a node. A collection met for the first time waits to be filled. -/
def item (id : NodeId) : Construct Item := do
  match (← get).items.lookup id with
  | some item => return item
  | none =>
      let node ← node id
      match StandardTag.ofName? node.tag with
      | none | some .merge | some .value => fail node.mark (.undefinedTag node.tag)
      | some .omap | some .pairs | some .set | some .seq | some .map =>
          modify fun state => { state with waiting := state.waiting ++ [id] }
          remember id (.collection id)
      | some tag => remember id (.value (← scalar tag id))

/-! ## Merge keys -/

/-- Splits a mapping's entries at the first merge key. Keys `=` on the way are
texts from here on. -/
def splitAtMerge (graph : Graph) :
    List (NodeId × NodeId) → List (NodeId × NodeId) × Option (NodeId × List (NodeId × NodeId)) × Graph
  | [] => ([], none, graph)
  | (key, value) :: rest =>
      let node := graph.node key
      if node.tag == StandardTag.merge.name then ([], some (value, rest), graph)
      else
        let graph := if node.tag == StandardTag.value.name then
            { graph with
              nodes := graph.nodes.modify key fun node => { node with tag := StandardTag.str.name } }
          else graph
        let (before, merge, graph) := splitAtMerge graph rest
        ((key, value) :: before, merge, graph)

def setEntries (id : NodeId) (entries : List (NodeId × NodeId)) : Construct Unit :=
  modify fun state =>
    { state with
      graph := { state.graph with
        nodes := state.graph.nodes.modify id fun node => { node with content := .mapping entries } } }

def entries (id : NodeId) : Construct (List (NodeId × NodeId)) := do
  match (← node id).content with
  | .mapping entries => return entries
  | _ => return []

/-- Replaces the merge keys of a mapping: the entries of the mappings named come
first, and of several mappings the last comes first. `merged` are the entries
found so far; the bound limits how deep mappings are merged and how many keys are
replaced. -/
def flattenWith : Nat → NodeId → List (NodeId × NodeId) → Construct Unit
  | 0, _, _ => pure ()
  | bound + 1, id, merged => do
      let (before, merge?, graph) := splitAtMerge (← get).graph (← entries id)
      modify fun state => { state with graph }
      match merge? with
      | none => if !merged.isEmpty then setEntries id (merged ++ before)
      | some (source, after) =>
          setEntries id (before ++ after)
          let start := (← node id).mark
          let sourceNode ← node source
          match sourceNode.content with
          | .mapping _ =>
              flattenWith bound source []
              flattenWith bound id (merged ++ (← entries source))
          | .sequence items =>
              let mut found : List (List (NodeId × NodeId)) := []
              for part in items do
                let partNode ← node part
                match partNode.content with
                | .mapping _ =>
                    flattenWith bound part []
                    found := (← entries part) :: found
                | other =>
                    failIn .constructedMapping start partNode.mark (.noMappingToMerge other.kind)
              flattenWith bound id (merged ++ found.flatten)
          | .scalar _ =>
              failIn .constructedMapping start sourceNode.mark (.nothingToMerge .scalar)

/-! ## Collections -/

/-- Fills a mapping or a set: keys are scalars, and the last of several values of
one key counts. -/
def fillEntries (start : Mark) :
    List (NodeId × NodeId) → List (Value × Item) → Construct (List (Value × Item))
  | [], done => return done
  | (key, value) :: rest, done => do
      match ← item key with
      | .collection _ => failIn .constructedMapping start (← node key).mark .unhashableKey
      | .value keyValue =>
          let valueItem ← item value
          fillEntries start rest (Value.insertEntry keyValue valueItem done)

def fillMapping (id : NodeId) : Construct (List (Value × Item)) := do
  let first ← node id
  match first.content with
  | .mapping _ =>
      let graph := (← get).graph
      flattenWith (graph.nodes.size * 2 + 2) id []
      fillEntries first.mark (← entries id) []
  | other => fail first.mark (.wrongNode .mapping other.kind)

/-- Fills a list of pairs, each of which is written as a mapping of one entry. -/
def fillPairs (activity : Activity) (id : NodeId) : Construct (List (Item × Item)) := do
  let node ← node id
  match node.content with
  | .sequence parts =>
      parts.mapM fun part => do
        let partNode ← Construct.node part
        match partNode.content with
        | .mapping [(key, value)] => return (← item key, ← item value)
        | .mapping entries =>
            failIn activity node.mark partNode.mark (.severalPairs entries.length)
        | other => failIn activity node.mark partNode.mark (.noSinglePair other.kind)
  | other => failIn activity node.mark node.mark (.noSequence other.kind)

def fill (id : NodeId) : Construct Filled := do
  let node ← node id
  match StandardTag.ofName? node.tag with
  | some .omap => return .pairs (← fillPairs .orderedMap id)
  | some .pairs => return .pairs (← fillPairs .pairs id)
  | some .set => return .set (arrangeSet ((← fillMapping id).map Prod.fst))
  | some .seq =>
      match node.content with
      | .sequence parts => return .list (← parts.mapM item)
      | other => fail node.mark (.wrongNode .sequence other.kind)
  | _ => return .mapping (← fillMapping id)

def fillAll : Nat → Construct Unit
  | 0 => pure ()
  | bound + 1 => do
      match (← get).waiting with
      | [] => pure ()
      | id :: rest =>
          modify fun state => { state with waiting := rest }
          let filled ← fill id
          modify fun state => { state with filled := (id, filled) :: state.filled }
          fillAll bound

end Construct

/-! ## Writing documents out -/

namespace Filled

def children : Filled → List NodeId
  | .list items => items.filterMap collection?
  | .pairs items => items.flatMap fun (first, second) => [first, second].filterMap collection?
  | .set _ => []
  | .mapping entries => entries.filterMap fun (_, item) => collection? item
where
  collection? : Item → Option NodeId
    | .collection id => some id
    | .value _ => none

def value (ofId : NodeId → Value) : Filled → Value
  | .list items => .list (items.map ofItem)
  | .pairs items => .list (items.map fun (first, second) => .pair (ofItem first) (ofItem second))
  | .set members => .set members
  | .mapping entries => .mapping (entries.map fun (key, item) => (key, ofItem item))
where
  ofItem : Item → Value
    | .collection id => ofId id
    | .value value => value

end Filled

namespace Construction

def children (state : Construction) (id : NodeId) : List NodeId :=
  ((state.filled.lookup id).map Filled.children).getD []

def reachable (state : Construction) : Nat → List NodeId → List NodeId → List NodeId
  | 0, seen, _ => seen
  | _, seen, [] => seen
  | bound + 1, seen, id :: rest =>
      if seen.contains id then reachable state bound seen rest
      else reachable state bound (id :: seen) (state.children id ++ rest)

def loops (state : Construction) : List NodeId :=
  if !state.graph.hasLoop then []
  else
    let ids := state.filled.map Prod.fst
    let bound := state.filled.foldl (fun total (_, filled) => total + filled.children.length + 2) 2
    ids.filter fun id => (state.reachable bound [] (state.children id)).contains id

/-- The value of a collection; the bound limits how deep collections are nested. -/
def valueOf (state : Construction) (loops : List NodeId) : Nat → NodeId → Value
  | 0, _ => .null
  | bound + 1, id =>
      match state.filled.lookup id with
      | none => .null
      | some filled => filled.value fun child =>
          if loops.contains child then .loop child else valueOf state loops bound child

def document (state : Construction) (root : Item) : Document :=
  let loops := state.loops
  let bound := state.filled.length + 1
  let value (id : NodeId) : Value := valueOf state loops bound id
  { root := match root with
      | .value scalar => scalar
      | .collection id => if loops.contains id then .loop id else value id
    loops := loops.map fun id => (id, value id) }

end Construction

def Graph.document (graph : Graph) : Except Fault Document := do
  let steps : Construct Item := do
    let root ← Construct.item graph.root
    Construct.fillAll (graph.nodes.size + 1)
    return root
  let (root, state) ← steps.run { graph }
  return state.document root

end InstructionSet.Yaml
