import DetectionFlow.Graph

/-!
# Editing graphs

The changes that an operator makes to a graph. An operation runs on a `Draft`, the graph with the
source of fresh identifiers, and yields an `Edit`: the value or the failure, the draft afterwards,
and the steps in between at which listeners are told of a change, each with the draft at that
moment.

An operation checks before it changes anything, so that a failure leaves the graph as it was. The
exception is `updateNode`, which has set the label when it finds a field unusable.
-/

namespace DetectionFlow

/-! ## Drafts and edits -/

/-- Fresh identifiers, the `n`-th of which is `make n`. -/
structure IdSource where
  make : Nat → String
  /-- How many were drawn. -/
  used : Nat

/-- The next identifier, and the source without it. -/
def IdSource.draw (ids : IdSource) : String × IdSource :=
  (ids.make (ids.used + 1), { ids with used := ids.used + 1 })

/-- A graph under edit with the source of its fresh identifiers. -/
structure Draft where
  graph : Graph
  ids : IdSource

/-- What was done to a graph. -/
inductive Action
  | addNode
  | removeNode
  | moveNode
  | updateNode
  | connect
  | disconnect
  deriving DecidableEq, Repr

def Action.name : Action → String
  | addNode => "add_node"
  | removeNode => "remove_node"
  | moveNode => "move_node"
  | updateNode => "update_node"
  | connect => "connect"
  | disconnect => "disconnect"

/-- A change that listeners are told of: what was done, and to which node or edge. -/
structure Change where
  action : Action
  subject : String
  deriving DecidableEq, Repr

/-- The outcome of an operation on a draft. -/
structure Edit (α : Type) where
  /-- The changes that listeners are told of, each with the draft right after it. -/
  steps : List (Change × Draft)
  draft : Draft
  result : Except Failure α

/-- An operation on a draft. -/
abbrev Editing (α : Type) := Draft → Edit α

namespace Editing

/-- Nothing but a value. -/
def done (a : α) : Editing α := fun d => ⟨[], d, .ok a⟩

/-- One operation after another; the second is left out if the first fails. -/
def andThen (m : Editing α) (f : α → Editing β) : Editing β := fun d =>
  let first := m d
  match first.result with
  | .error e => ⟨first.steps, first.draft, .error e⟩
  | .ok a =>
    let second := f a first.draft
    ⟨first.steps ++ second.steps, second.draft, second.result⟩

instance : Monad Editing where
  pure := done
  bind := andThen

/-- A failure that changes nothing. -/
def fail (e : Failure) : Editing α := fun d => ⟨[], d, .error e⟩

def ofFault (x : Except Fault α) : Editing α :=
  match x with
  | .ok a => done a
  | .error f => fail (.fault f)

def ofGraph (x : Except GraphError α) : Editing α :=
  match x with
  | .ok a => done a
  | .error e => fail (.graph e)

/-- The graph as it is. -/
def current : Editing Graph := fun d => ⟨[], d, .ok d.graph⟩

/-- A new graph that no listener is told of. -/
def put (g : Graph) : Editing Unit := fun d => ⟨[], { d with graph := g }, .ok ()⟩

/-- A new graph, and word of the change to all listeners. -/
def commit (g : Graph) (change : Change) : Editing Unit := fun d =>
  let d' := { d with graph := g }
  ⟨[(change, d')], d', .ok ()⟩

/-- A fresh identifier. -/
def fresh : Editing String := fun d =>
  let (id, ids) := d.ids.draw
  ⟨[], { d with ids }, .ok id⟩

/-- The identifier that was given, or a fresh one if that is absent or empty. -/
def identifier (given : Option String) : Editing String :=
  match given with
  | some id => if id.isEmpty then fresh else done id
  | none => fresh

end Editing

/-! ## Operations on nodes -/

/-- What a node is made from. -/
structure NewNode where
  kind : Kind
  /-- Where it is drawn; the origin without a position. -/
  position : Value
  /-- Its label; the kind with a running number without one. -/
  label : Option String
  id : Option String
  fields : Fields

namespace Graph

/-- The origin of the drawing. -/
def origin : List Value := [.float Double.zero, .float Double.zero]

/-- The position that a value gives; the origin if it gives none. -/
def positionOf (v : Value) : Except Fault (List Value) :=
  if v.isTruthy then v.toItems else .ok origin

/-- The label of the next node of a kind. -/
def nextLabel (g : Graph) (k : Kind) : String :=
  k.title ++ "#" ++ toString ((g.ofKind k).length + 1)

/-- A fault in the choice or the form of payload fields is one of the graph's own errors. -/
def fieldsFailure (k : Kind) (f : Fault) : Failure :=
  if f.family = .wrongType then .graph (.invalidFields k) else .fault f

/-- A payload, with the failure that an unusable field means for a node. -/
def payloadOr (k : Kind) (p : Except Fault Payload) : Editing Payload :=
  match p with
  | .ok payload => .done payload
  | .error f => .fail (fieldsFailure k f)

def addNode (new : NewNode) : Editing Node := do
  -- The identifier is drawn first and stays used even if the node is refused below.
  let id ← Editing.identifier new.id
  let g ← Editing.current
  if g.hasNode id then Editing.fail (.graph (.duplicateNode id))
  else
    let payload ← payloadOr new.kind (Payload.build new.kind new.fields)
    let position ← Editing.ofFault (positionOf new.position)
    let node : Node := ⟨id, new.label.getD (g.nextLabel new.kind), position, payload⟩
    Editing.commit { g with nodes := g.nodes ++ [node] } ⟨.addNode, id⟩
    return node

/-- Takes a node away, and every edge that touches it. -/
def removeNode (id : String) : Editing Unit := do
  let g ← Editing.current
  let _ ← Editing.ofGraph (g.getNode id)
  Editing.commit
    ⟨g.nodes.filter (·.id ≠ id), g.edges.filter fun e => e.source ≠ id ∧ e.target ≠ id⟩
    ⟨.removeNode, id⟩

/-- The graph with another node in the place of the one with its identifier. -/
def replaceNode (g : Graph) (n : Node) : Graph :=
  { g with nodes := g.nodes.map fun m => if m.id = n.id then n else m }

def moveNode (id : String) (x y : Value) : Editing Unit := do
  let g ← Editing.current
  let node ← Editing.ofGraph (g.getNode id)
  let x ← Editing.ofFault x.toDouble
  let y ← Editing.ofFault y.toDouble
  Editing.commit (g.replaceNode { node with position := [.float x, .float y] }) ⟨.moveNode, id⟩

/-- Sets the label if one is given, then the payload fields that are named. -/
def updateNode (id : String) (label : Option String) (fields : Fields) : Editing Node := do
  let g ← Editing.current
  let node ← Editing.ofGraph (g.getNode id)
  let relabelled := { node with label := label.getD node.label }
  -- From here on the label is set, whatever becomes of the fields.
  Editing.put (g.replaceNode relabelled)
  let payload ←
    if fields.isEmpty then pure node.payload
    else payloadOr node.kind (node.payload.update fields)
  let updated := { relabelled with payload }
  Editing.commit (g.replaceNode updated) ⟨.updateNode, id⟩
  return updated

/-! ## Operations on edges -/

/-- Whether one node may feed another, and if not, why. -/
def checkConnection (source target : Node) : Except GraphError Unit :=
  if source.id = target.id then .error (.selfLoop source.id)
  else if !source.kind.hasOutput then .error (.noOutput source.kind)
  else if !target.kind.hasInput then .error (.noInput target.kind)
  else .ok ()

/-- The edges with a new one at the end, in place of the one from the same source. -/
def insertEdge (g : Graph) (e : Edge) : Graph :=
  { g with edges := g.edges.eraseP (·.source = e.source) ++ [e] }

/-- Connects two nodes. The source loses the edge that it had. -/
def connect (source target : String) (id : Option String) : Editing Edge := do
  let g ← Editing.current
  let feeder ← Editing.ofGraph (g.getNode source)
  let fed ← Editing.ofGraph (g.getNode target)
  Editing.ofGraph (checkConnection feeder fed)
  -- Only a connection that is admitted draws an identifier.
  let id ← Editing.identifier id
  if g.edges.any (·.id = id) then Editing.fail (.graph (.duplicateEdge id))
  else
    let edge : Edge := ⟨id, source, target⟩
    Editing.commit (g.insertEdge edge) ⟨.connect, id⟩
    return edge

def disconnect (id : String) : Editing Unit := do
  let g ← Editing.current
  if g.edges.any (·.id = id) then
    Editing.commit { g with edges := g.edges.eraseP (·.id = id) } ⟨.disconnect, id⟩
  else Editing.fail (.graph (.unknownEdge id))

/-! ## Insertion of a batch -/

/-- The first identifier that is taken: by the graph or by an earlier node of the batch. -/
def takenNode? (g : Graph) : List String → List Node → Option String
  | _, [] => none
  | seen, n :: rest =>
    if g.hasNode n.id || seen.contains n.id then some n.id
    else takenNode? g (n.id :: seen) rest

/-- Whether an edge of a batch fits the batch and the graph, and if not, why. -/
def checkEdge (g : Graph) (batch : List Node) (taken : List String) (e : Edge) :
    Except GraphError Unit := do
  let all : Graph := ⟨batch ++ g.nodes, []⟩
  checkConnection (← all.getNode e.source) (← all.getNode e.target)
  if taken.contains e.id then .error (.duplicateEdge e.id) else .ok ()

/-- Whether all edges of a batch fit, one after the other. -/
def checkEdges (g : Graph) (batch : List Node) : List String → List Edge → Except GraphError Unit
  | _, [] => .ok ()
  | taken, e :: rest => do
    checkEdge g batch taken e
    checkEdges g batch (e.id :: taken) rest

/-- Adds the nodes of a batch, one after the other. -/
def insertNodes : List Node → Editing Unit
  | [] => .done ()
  | n :: rest => do
    let g ← Editing.current
    Editing.commit { g with nodes := g.nodes ++ [n] } ⟨.addNode, n.id⟩
    insertNodes rest

/-- Adds the edges of a batch, one after the other. -/
def insertEdges : List Edge → Editing Unit
  | [] => .done ()
  | e :: rest => do
    let _ ← connect e.source e.target (some e.id)
    insertEdges rest

/-- Inserts nodes and edges that were made elsewhere. All of them are checked before any is
inserted. -/
def extend (nodes : List Node) (edges : List Edge) : Editing Unit := do
  let g ← Editing.current
  match takenNode? g [] nodes with
  | some id => Editing.fail (.graph (.duplicateNode id))
  | none =>
    -- The whole batch is checked before the first node goes in.
    Editing.ofGraph (checkEdges g nodes (g.edges.map (·.id)) edges)
    insertNodes nodes
    insertEdges edges

end Graph
end DetectionFlow
