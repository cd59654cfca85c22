import DetectionFlow.Payload

/-!
# Records

What the compositor is given: a flat list of records, each with the identifier of its parent. A
record is a header and a body, and the body carries exactly the fields of its type, so that a
condition record has either a count or a time, never both.

`Record.toValue` is the form on the wire and `Record.describe` the line that a plan shows.
-/

namespace DetectionFlow

/-- The detection target of an area: an object class, and classifiers that narrow it. -/
structure Target where
  label : String
  classifiers : Option (List String)
  deriving DecidableEq, Inhabited

/-- The part of a record that depends on its type. -/
inductive Body
  | zone (points : List Point) (target : Option Target) (detectionPoint : Option String)
  | line (points : List Point) (direction : Direction) (target : Option Target)
      (detectionPoint : Option String)
  | count (condition : String)
  | timeout (seconds : Number)
  | speed (turn : Option Int)
  | merge (inOrder : Option Bool)
  | alarm (ext : String)
  deriving DecidableEq, Inhabited

namespace Body

/-- The kind of node that the record stands for. -/
def kind : Body → Kind
  | zone .. => .zone
  | line .. => .line
  | count _ => .count
  | timeout _ => .timeout
  | speed _ => .speed
  | merge _ => .merge
  | alarm _ => .alarm

def recordType : Body → RecordType
  | zone .. => .roi
  | line .. => .line
  | count _ | timeout _ => .filter
  | speed _ => .speed
  | merge _ => .and
  | alarm _ => .alarm

/-- The detection target of an area record. -/
def target? : Body → Option Target
  | zone _ target _ | line _ _ target _ => target
  | _ => none

/-- Every body is the record of a kind that is written as its type. -/
theorem recordType?_kind (b : Body) : b.kind.recordType? = some b.recordType := by
  cases b <;> rfl

end Body

/-- A record of the compositor. -/
structure Record where
  id : String
  name : String
  /-- The identifier of the record above this one. -/
  parent : Option String
  body : Body
  deriving DecidableEq, Inhabited

/-- The schema generation of the records written here. -/
def schemaVersion : String := "2.0.0"

/-- What a save call carries: records under a schema version. -/
structure EventSettings where
  version : String
  records : List Record
  deriving DecidableEq, Inhabited

/-! ## The form on the wire -/

namespace Record

/-- A field that is left out when there is nothing in it. -/
def present (name : String) (v : Option Value) : Fields :=
  match v with
  | some v => [(name, v)]
  | none => []

def targetValue (t : Target) : Value :=
  .object (("label", .text t.label) :: present "classifiers" (t.classifiers.map Value.ofTexts))

/-- The fields of a body, in wire order. -/
def bodyFields : Body → Fields
  | .zone points target detectionPoint =>
    ("points", Point.listToValue points) :: present "target" (target.map targetValue) ++
      present "detectionPoint" (detectionPoint.map .text)
  | .line points direction target detectionPoint =>
    ("points", Point.listToValue points) :: ("direction", .text direction.name) ::
      present "target" (target.map targetValue) ++
      present "detectionPoint" (detectionPoint.map .text)
  | .count condition => [("ncond", .text condition)]
  | .timeout seconds => [("timeout", seconds.toValue)]
  | .speed turn => present "turn" (turn.map .int)
  | .merge inOrder => present "inOrder" (inOrder.map .bool)
  | .alarm ext => [("ext", .text ext)]

/-- The fields of a record, in wire order. -/
def fields (r : Record) : Fields :=
  ("eventSettingId", .text r.id) :: ("eventSettingName", .text r.name) ::
    present "parentId" (r.parent.map .text) ++
    ("eventType", .text r.body.recordType.name) :: bodyFields r.body

def toValue (r : Record) : Value := .object r.fields

/-! ## The description of a record -/

/-- A target in a plan; without one an area detects every class. -/
def describeTarget : Option Target → String
  | none => "any class"
  | some t => match t.classifiers with
    | some (c :: cs) => t.label ++ " [" ++ String.intercalate ", " (c :: cs) ++ "]"
    | _ => t.label

/-- One line about what is specific to a record. -/
def describe (r : Record) : String :=
  match r.body with
  | .zone points target _ => area points target
  | .line points direction target _ => area points target ++ ", direction: " ++ direction.name
  | .count condition => "count " ++ condition
  | .timeout seconds => "timeout " ++ seconds.shown ++ "s"
  | .speed turn => match turn with
    | some n => "turn=" ++ toString n
    | none => "speed"
  | .merge inOrder => if inOrder = some true then "in order" else "any order"
  | .alarm ext => "ext=" ++ ext
where
  area (points : List Point) (target : Option Target) : String :=
    toString points.length ++ " points, target: " ++ describeTarget target

end Record

def EventSettings.toValue (s : EventSettings) : Value :=
  .object [("version", .text s.version), ("configs", .list (s.records.map Record.toValue))]

end DetectionFlow
