import DetectionFlow.Graph
import DetectionFlow.Record.Reader

/-!
# Detection targets

What an area detects is chosen on the nearest Object above it. The walk upwards follows the first
incoming edge of each node and ends at an Object, at a node without an incoming edge, or where it
would come back to a node that it has passed.
-/

namespace DetectionFlow
namespace Graph

/-- What the walk upwards from a node ends at. -/
inductive Ancestry
  | nothing
  | object (n : Node)
  | cycle

/-- Walks upwards from a node for at most so many steps, past the nodes that were visited. -/
def ascend (g : Graph) : Nat → List String → String → Ancestry
  | 0, _, _ => .cycle
  | steps + 1, visited, id =>
    match g.feeder? id with
    | none => .nothing
    | some above =>
      -- The first incoming edge decides; all others are ignored.
      if visited.contains above then .cycle
      else match g.node? above with
        | none => .nothing
        | some n =>
          if n.kind.providesTarget then .object n
          else ascend g steps (above :: visited) above

/-- What lies above a node. A walk that passes no node twice takes no more steps than there are
edges, and one more to find its end. -/
def ancestry (g : Graph) (id : String) : Ancestry :=
  g.ascend (g.edges.length + 1) [id] id

/-- The fields of the target that an Object gives: its first class, and its classifiers if any. -/
def targetFields (classes classifiers : List Value) : Option Value :=
  match classes with
  | [] => none
  | label :: _ => some (.object [("label", label),
      ("classifiers", if classifiers.isEmpty then .null else .list classifiers)])

/-- The target of a node. Without an Object that has classes above it, it matches every class. -/
def resolveTarget (g : Graph) (id : String) : Checked (Option Target) :=
  match g.ancestry id with
  | .object ⟨_, _, _, .object classes classifiers⟩ =>
    match targetFields classes classifiers with
    | some v => (Record.target v).map some
    | none => .ok none
  | _ => .ok none

end Graph
end DetectionFlow
