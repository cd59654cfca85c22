import DetectionFlow.Payload

/-!
# Graphs

The diagram that an operator draws: nodes with their payloads, and directed edges between them. A
node feeds at most one other node; several nodes may feed the same one. Nodes and edges keep the
order in which they were added, and so do all listings.

The type itself admits any nodes and edges. The rules (distinct identifiers, ends that exist,
connectors that exist, one edge per source) are kept by the operations of `Graph.Edit`.
-/

namespace DetectionFlow

/-! ## Nodes and edges -/

/-- A node. Its identifier becomes that of its record, and its label the record's name. -/
structure Node where
  id : String
  label : String
  /-- Where the node is drawn. Only document files insist on two numbers. -/
  position : List Value
  payload : Payload
  deriving Inhabited

def Node.kind (n : Node) : Kind := n.payload.kind

/-- The label of a node in lists of nodes. -/
def Node.caption (n : Node) : String := n.label ++ " [" ++ n.kind.title ++ "]"

/-- A connection from a node to the stage it feeds. -/
structure Edge where
  id : String
  source : String
  target : String
  deriving DecidableEq, Inhabited, Repr

/-- Nodes and edges, each in the order of insertion. -/
structure Graph where
  nodes : List Node
  edges : List Edge
  deriving Inhabited

namespace Graph

def empty : Graph := ⟨[], []⟩

/-! ## Queries -/

def node? (g : Graph) (id : String) : Option Node := g.nodes.find? (·.id = id)

/-- The node with an identifier, which must exist. -/
def getNode (g : Graph) (id : String) : Except GraphError Node :=
  match g.node? id with
  | some n => .ok n
  | none => .error (.unknownNode id)

def hasNode (g : Graph) (id : String) : Bool := g.nodes.any (·.id = id)

/-- The edge to the stage that a node feeds. -/
def outgoing? (g : Graph) (id : String) : Option Edge := g.edges.find? (·.source = id)

/-- The edges from the stages that feed a node. -/
def incoming (g : Graph) (id : String) : List Edge := g.edges.filter (·.target = id)

/-- The stage that a node takes as the one above it: the source of its first incoming edge. -/
def feeder? (g : Graph) (id : String) : Option String :=
  (g.incoming id).head?.map (·.source)

def ofKind (g : Graph) (k : Kind) : List Node := g.nodes.filter (·.kind = k)

def size (g : Graph) : Nat := g.nodes.length

/-- The label of a node, for listings. -/
def labelOf (g : Graph) (id : String) : String := ((g.node? id).map (·.label)).getD ""

/-! ## The right border -/

/-- The order of two texts is that of their codes. -/
def codesExceed (s t : String) : Bool :=
  decide (t.toList.map Text.Half.code < s.toList.map Text.Half.code)

mutual

/-- One value is strictly greater than another. Numbers, texts and lists have an order. -/
def exceeds (a b : Value) : Except Fault Bool :=
  match a, b with
  | .text s, .text t => .ok (codesExceed s t)
  | .list items, .list others => itemsExceed items others
  | a, b => match a.number?, b.number? with
    | some x, some y => .ok (y.lt x)
    | _, _ => .error .unordered

/-- The first items that differ decide, and where there is none the lengths do. -/
def itemsExceed : List Value → List Value → Except Fault Bool
  | [], _ => .ok false
  | _ :: _, [] => .ok true
  | v :: rest, w :: others => if v.same w then itemsExceed rest others else exceeds v w

end

/-- The horizontal position of a node. -/
def horizontal (n : Node) : Except Fault Value :=
  match n.position with
  | x :: _ => .ok x
  | [] => .error .absentPlace

/-- The greatest horizontal position of all nodes, the first of equals; none without nodes. -/
def rightmost? (g : Graph) : Except Fault (Option Value) := do
  match ← g.nodes.mapM horizontal with
  | [] => return none
  | x :: rest =>
    let greatest ← rest.foldlM (fun best y => do
      if ← exceeds y best then return y else return best) x
    return some greatest

end Graph
end DetectionFlow
