import DetectionFlow.Graph

/-!
# Advice

Rules that look at one node and may have a warning about it. They run in order, and the first
warning counts. Advice never stops compilation: a graph with warnings can be saved.
-/

namespace DetectionFlow
namespace Advice

/-- A rule: a warning about a node of a graph, if it has one. -/
abbrev Rule := Graph → Node → Except Fault (Option String)

/-! ## The built-in rules -/

/-- The warning about an Object that feeds no area. -/
def objectNotConnected : String := "must connect to Zone or Line"

/-- The node that a node feeds. -/
def target? (g : Graph) (n : Node) : Option Node :=
  (g.outgoing? n.id).bind fun e => g.node? e.target

/-- An Object feeds a Zone or a Line. -/
def objectFeedsArea : Rule := fun g n =>
  .ok <|
    if n.kind ≠ .object then none
    else match target? g n with
      | some t => if t.kind.isArea then none else some objectNotConnected
      | none => some objectNotConnected

/-- A Zone has at least three points, and a Line has two. -/
def areaPointCount : Rule := fun _ n =>
  .ok <| match n.payload with
    | .zone points _ =>
      if points.length < 3 then
        some ("zone needs at least 3 points (has " ++ toString points.length ++ ")")
      else none
    | .line points _ _ =>
      if points.length ≠ 2 then
        some ("line needs exactly 2 points (has " ++ toString points.length ++ ")")
      else none
    | _ => none

/-- The coordinate lies within the frame. -/
def inFrame (x : Double) : Bool := Double.zero.le x && x.le Double.one

/-- The first point outside the frame. -/
def outside? (points : List Point) : Option Point :=
  points.find? fun p => !(inFrame p.x && inFrame p.y)

/-- The points of an area lie within the frame. -/
def pointsInFrame : Rule := fun _ n =>
  .ok <| match n.payload with
    | .zone points _ | .line points _ _ =>
      (outside? points).map fun p =>
        "point (" ++ Layout.plain.render p.x ++ ", " ++ Layout.plain.render p.y ++
          ") is outside the frame (0-1)"
    | _ => none

/-- A value is below zero. Only numbers can be compared with it. -/
def isNegative (v : Value) : Except Fault Bool :=
  match v.number? with
  | some n => .ok (n.lt (.int 0))
  | none => .error .unordered

/-- A Timeout has no negative time. -/
def timeoutNotNegative : Rule := fun _ n =>
  match n.payload with
  | .timeout seconds => do
    return if ← isNegative seconds then some "timeout must not be negative" else none
  | _ => .ok none

/-- A node feeds one of the kinds that its own kind normally feeds. -/
def suggestedDownstream : Rule := fun g n =>
  .ok <| match target? g n with
    | some t =>
      if n.kind.suggested.isEmpty || n.kind.suggested.contains t.kind then none
      else some ("unusual connection to " ++ t.kind.title)
    | none => none

/-- The built-in rules in their order. -/
def rules : List Rule :=
  [objectFeedsArea, areaPointCount, pointsInFrame, timeoutNotNegative, suggestedDownstream]

/-- A rule that has the same warning about all nodes of a kind. -/
def forKind (k : Kind) (warning : String) : Rule := fun _ n =>
  .ok (if n.kind = k then some warning else none)

/-! ## Running the rules -/

/-- The first warning that is not empty. -/
def firstWarning (g : Graph) (n : Node) : List Rule → Except Fault (Option String)
  | [] => .ok none
  | rule :: rest => do
    match ← rule g n with
    -- An empty warning is none, and the next rule is asked.
    | some w => if w.isEmpty then firstWarning g n rest else return some w
    | none => firstWarning g n rest

/-- For each node its warning, if it has one. -/
abbrev Warnings := List (String × Option String)

/-- The warnings of a graph under some rules, in the order of its nodes. -/
def warningsUnder (rs : List Rule) (g : Graph) : Except Fault Warnings :=
  g.nodes.mapM fun n => do return (n.id, ← firstWarning g n rs)

/-- The warnings of a graph. -/
def warnings (g : Graph) : Except Fault Warnings := warningsUnder rules g

/-- The nodes that have a warning, with it. -/
def active (ws : Warnings) : List (String × String) :=
  ws.filterMap fun w => w.2.map (w.1, ·)

/-- The warning about a node. -/
def warningOf (ws : Warnings) (id : String) : Option String :=
  ((ws.find? (·.1 = id)).map (·.2)).join

end Advice
end DetectionFlow
