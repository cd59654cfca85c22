import DetectionFlow.Graph.Edit
import DetectionFlow.Text.Lower

/-!
# Templates

Chains of nodes that an operator drops into a graph as one: an Object, an area, what is asked of it,
an Event and an Alarm. The area is a Zone or a Line, chosen at insertion. Every expansion draws fresh
identifiers, so that one template can be inserted twice.
-/

namespace DetectionFlow

/-! ## Stages -/

/-- One link of the chain. -/
inductive Template.Stage
  /-- The area, whose kind is chosen at insertion. -/
  | area
  /-- A new node as any other. -/
  | plain (kind : Kind)
  | timeout (seconds : Nat)
  | count (condition : String)

namespace Template.Stage

/-- The kind of the node that the stage becomes. -/
def kind (areaKind : Kind) : Stage → Kind
  | area => areaKind
  | plain kind => kind
  | timeout _ => .timeout
  | count _ => .count

/-- The payload of the node that the stage becomes. -/
def payload (areaKind : Kind) : Stage → Payload
  | area => .new areaKind
  | plain kind => .new kind
  | timeout seconds => .timeout (.int seconds)
  | count condition => .count (.text condition)

/-- The kind as templates state it. -/
def name : Stage → String
  | area => "area"
  | plain kind => kind.name
  | timeout _ => Kind.timeout.name
  | count _ => Kind.count.name

/-- The payload fields that the stage states. -/
def overrides : Stage → Fields
  | area | plain _ => []
  | timeout seconds => [("seconds", .int seconds)]
  | count condition => [("condition", .text condition)]

end Template.Stage

/-! ## Templates -/

/-- The templates. -/
inductive Template
  | basic
  | withTimeout
  | withCount
  deriving DecidableEq, Repr

namespace Template

def all : List Template := [basic, withTimeout, withCount]

def id : Template → String
  | basic => "basic"
  | withTimeout => "with-timeout"
  | withCount => "with-count"

/-- The name shown to people. -/
def name : Template → String
  | basic => "Basic Detection"
  | withTimeout => "With Timeout"
  | withCount => "With Count"

def description : Template → String
  | basic => "Object → Area → Event → Alarm"
  | withTimeout => "Object → Area → Timeout → Event → Alarm"
  | withCount => "Object → Area → Count → Event → Alarm"

/-- What stands between the area and the Event. -/
def condition : Template → List Stage
  | basic => []
  | withTimeout => [.timeout 5]
  | withCount => [.count ">=3"]

/-- The chain in its order. -/
def stages (t : Template) : List Stage :=
  [.plain .object, .area] ++ t.condition ++ [.plain .event, .plain .alarm]

/-- The template with an identifier, or else with a name; the case of a name does not matter. -/
def find? (s : String) : Option Template :=
  match all.find? (·.id = s) with
  | some t => some t
  | none => all.find? fun t => Text.lower t.name = Text.lower s

/-- The template that a value names. -/
def ofValue (v : Value) : Except Fault Template :=
  match v with
  | .text s => match find? s with
    | some t => .ok t
    | none => .error (.unknownTemplate s (all.map id))
  | _ => .error (if v.isKey then .noFields v.typeName else .noKey v.typeName)

/-- The kind of area that a value names. -/
def areaOfValue (v : Value) : Except Fault Kind := do
  let kind ← Kind.ofValue v
  if kind.isArea then return kind else .error (.badArea kind)

/-! ## Expansion -/

/-- Where the first template of a graph stands. -/
def firstColumn : Int := 100

/-- How far a template stands from all that is there. -/
def gap : Int := 250

/-- The distance between the stages. -/
def stageHeight : Nat := 120

/-- A value plus an integer. -/
def shifted (v : Value) (n : Int) : Except Fault Value :=
  match v.number? with
  | some (.int m) => .ok (.int (m + n))
  | some (.float x) => .ok (.float (x.add (Double.ofInt n)))
  | none => .error (.notNumeric v.typeName)

/-- Where a template stands in a graph: to the right of all nodes. -/
def column (g : Graph) : Except Fault Value := do
  match ← g.rightmost? with
  | some x => shifted x gap
  | none => return .int firstColumn

/-- The nodes of the stages from the `row`-th on, all in one column. -/
def nodesFrom (areaKind : Kind) (x : Value) : Nat → List Stage → Editing (List Node)
  | _, [] => .done []
  | row, stage :: rest => do
    let id ← Editing.fresh
    let x' ← Editing.ofFault x.toDouble
    let node : Node := ⟨id, (stage.kind areaKind).title ++ "#1",
      [.float x', .float (Double.ofInt (row * stageHeight : Nat))], stage.payload areaKind⟩
    return node :: (← nodesFrom areaKind x (row + 1) rest)

/-- The edges from each node to the next. -/
def edgesAlong : List Node → Editing (List Edge)
  | a :: b :: rest => do
    let id ← Editing.fresh
    return ⟨id, a.id, b.id⟩ :: (← edgesAlong (b :: rest))
  | _ => .done []

/-- Fresh nodes and edges for a place in the graph. They are not inserted. -/
def expand (name area : Value) : Editing (List Node × List Edge) := do
  let template ← Editing.ofFault (ofValue name)
  let areaKind ← Editing.ofFault (areaOfValue area)
  let g ← Editing.current
  let x ← Editing.ofFault (column g)
  -- All nodes draw their identifiers before the first edge does.
  let nodes ← nodesFrom areaKind x 0 template.stages
  let edges ← edgesAlong nodes
  return (nodes, edges)

/-- Expands a template and inserts it; yields the new nodes. -/
def insert (name area : Value) : Editing (List Node) := do
  let (nodes, edges) ← expand name area
  Graph.extend nodes edges
  return nodes

end Template
end DetectionFlow
