import DetectionFlow.Alarm
import DetectionFlow.Notice
import DetectionFlow.Target

/-!
# Compiled graphs

The records of a graph. Every node whose kind has a record becomes exactly one record with the
identifier of the node; Objects and Events are elided. A record names as its parent the source of
the first incoming edge of its node, if that source has a record itself.

The record of a node is read from its payload by the reader of saved records, so that whatever is
compiled could also be loaded.
-/

namespace DetectionFlow

/-- The outcome of compilation. -/
structure Compiled where
  settings : EventSettings
  /-- The nodes without a record. -/
  elided : List String
  /-- The nodes that more stages feed than a record can name. -/
  droppedParents : List String
  deriving DecidableEq, Inhabited

namespace Graph

/-! ## The record of a node -/

/-- The parent of the record of a node. A source without a record makes it a root. -/
def parentId? (g : Graph) (id : String) : Option String :=
  match g.feeder? id with
  | none => none
  | some above => match g.node? above with
    | some n => if n.kind.emits then some n.id else none
    | none => none

/-- The wire fields that all records have. -/
def headerFields (g : Graph) (n : Node) : Fields :=
  [("eventSettingId", .text n.id), ("eventSettingName", .text n.label),
   ("parentId", Value.ofText? (g.parentId? n.id))]

/-- A target as a field; none is null. -/
def targetField (t : Option Target) : Value :=
  match t with
  | some t => Record.targetValue t
  | none => .null

/-- The wire fields that come from the payload of a node. -/
def payloadFields (g : Graph) (n : Node) : Except Failure Fields :=
  match n.payload with
  | .zone points detectionPoint => do
    let target ← (g.resolveTarget n.id).toFailure
    return [("points", Point.listToValue points), ("target", targetField target),
      ("detectionPoint", detectionPoint)]
  | .line points direction detectionPoint => do
    let target ← (g.resolveTarget n.id).toFailure
    return [("points", Point.listToValue points), ("direction", .text direction.name),
      ("target", targetField target), ("detectionPoint", detectionPoint)]
  | .count condition => .ok [("ncond", condition)]
  | .timeout seconds => .ok [("timeout", seconds)]
  | .speed turn => .ok [("turn", turn)]
  | .merge inOrder => .ok [("inOrder", inOrder)]
  | .alarm bindings => match Alarm.encode bindings with
    | .ok ext => .ok [("ext", .text ext)]
    | .error f => .error (.fault f)
  | .object .. | .event => .error (.fault (.noRecord n.kind))

/-- A broken schema means that the node cannot be compiled. -/
def asCompileError (n : Node) : Failure → Failure
  | .schema vs => .compile ⟨n.label, n.id, vs⟩
  | e => e

/-- The record of a node. -/
def compileNode (g : Graph) (n : Node) : Except Failure Record :=
  match (do
    let fields ← g.payloadFields n
    -- Read, not built: what a reader of records would refuse is refused here.
    (Record.checkFields n.kind (g.headerFields n ++ fields)).toFailure) with
  | .ok r => .ok r
  | .error e => .error (asCompileError n e)

/-! ## The records of a graph -/

/-- The nodes that have records. -/
def emitting (g : Graph) : List Node := g.nodes.filter (·.kind.emits)

/-- The nodes that have none. -/
def elided (g : Graph) : List Node := g.nodes.filter (!·.kind.emits)

/-- The records of a graph, in the order of its nodes. -/
def compile (g : Graph) : Except Failure Compiled := do
  let records ← g.emitting.mapM g.compileNode
  return {
    settings := ⟨schemaVersion, records⟩
    elided := g.elided.map (·.id)
    droppedParents := (g.emitting.filter fun n => 1 < (g.incoming n.id).length).map (·.id) }

/-! ## Notices -/

/-- The notices about one node. -/
def nodeNotices (g : Graph) (n : Node) : List Notice :=
  let feeders := (g.incoming n.id).length
  (if 1 < feeders then [.extraFeeders n.label feeders] else []) ++
  (if n.kind.isArea then match g.ancestry n.id with
    | .cycle => [.cycleAbove n.id]
    | _ => []
  else [])

/-- The notices about nodes until one cannot be compiled, and the last one if none is left over. -/
def noticesThrough (g : Graph) (last : List Notice) : List Node → List Notice
  | [] => last
  | n :: rest =>
    g.nodeNotices n ++ match g.compileNode n with
      | .ok _ => g.noticesThrough last rest
      | .error _ => []

/-- The notices of compilation. -/
def compileNotices (g : Graph) : List Notice :=
  let objects := (g.ofKind .object).length
  g.noticesThrough (if objects = 0 then [] else [.objectsNotSaved objects]) g.emitting

/-- Compilation with its notices. -/
def compileNoted (g : Graph) : Noted Compiled := .ofResult g.compileNotices g.compile

end Graph
end DetectionFlow
