import DetectionFlow.Value.Coerce

/-!
# Payloads

What an operator edits on a node of each kind. Fields that the graph itself never looks into are
kept as given and are checked when the graph is compiled; points, directions and class sets are
brought into their form at once.

`Payload.build` makes a payload from named fields, and `Payload.fields` lists them again; the two
are inverse on every payload that was built.
-/

namespace DetectionFlow

/-! ## Points -/

/-- A point in the coordinates of the frame, both from zero to one inside it. -/
structure Point where
  x : Double
  y : Double
  deriving DecidableEq, Inhabited

namespace Point

def toValue (p : Point) : Value := .list [.float p.x, .float p.y]

/-- A point from two values. -/
def ofValue (v : Value) : Except Fault Point := do
  match ← v.toItems with
  | [x, y] => return ⟨← x.toDouble, ← y.toDouble⟩
  | items => .error (.notPair items.length)

/-- Points from a value that runs through pairs. -/
def listOfValue (v : Value) : Except Fault (List Point) := do
  (← v.toItems).mapM ofValue

def listToValue (ps : List Point) : Value := .list (ps.map toValue)

/-- A point with coordinates in hundredths. -/
def hundredths (x y : Nat) : Point :=
  ⟨Double.ofDecimal false x (-2), Double.ofDecimal false y (-2)⟩

/-- The polygon around the whole frame. -/
def fullFrame : List Point :=
  [hundredths 0 0, hundredths 100 0, hundredths 100 100, hundredths 0 100]

/-- The polygon of a new zone. -/
def newZone : List Point :=
  [hundredths 20 20, hundredths 80 20, hundredths 80 80, hundredths 20 80]

/-- The two ends of a new line. -/
def newLine : List Point := [hundredths 30 50, hundredths 70 50]

end Point

/-! ## Sensor bindings -/

/-- One physical output that an alarm drives. -/
structure SensorBinding where
  sensorId : Value
  sensorTypeId : Value
  /-- The channel, such as a lamp or a buzzer. -/
  channel : Value
  /-- What is sent to the channel. -/
  alarmValue : Value
  duration : Value
  priority : Value

namespace SensorBinding

def fields (b : SensorBinding) : Fields :=
  [("sensor_id", b.sensorId), ("sensor_type_id", b.sensorTypeId), ("alarm_channel", b.channel),
   ("alarm_value", b.alarmValue), ("duration_seconds", b.duration), ("priority", b.priority)]

def fieldNames : List String :=
  ["sensor_id", "sensor_type_id", "alarm_channel", "alarm_value", "duration_seconds", "priority"]

/-- The value of a field that has no default. -/
def required (fs : Fields) (name : String) : Except Fault Value :=
  match fs.get? name with
  | some v => .ok v
  | none => .error (.missingField name)

/-- A binding from named fields. Duration and priority may be absent. -/
def ofFields (fs : Fields) : Except Fault SensorBinding := do
  match fs.find? fun f => !fieldNames.contains f.1 with
  | some f => .error (.unknownField f.1)
  | none =>
    return {
      sensorId := ← required fs "sensor_id"
      sensorTypeId := ← required fs "sensor_type_id"
      channel := ← required fs "alarm_channel"
      alarmValue := ← required fs "alarm_value"
      duration := (fs.get? "duration_seconds").getD (.int 0)
      priority := (fs.get? "priority").getD .null }

/-- A binding from a value, which must be an object. -/
def ofValue (v : Value) : Except Fault SensorBinding :=
  match v.fields? with
  | some fs => ofFields fs
  | none => .error (.notIterable v.typeName)

end SensorBinding

/-! ## Payloads -/

/-- The fields of a node, by kind. -/
inductive Payload
  | object (classes classifiers : List Value)
  | zone (points : List Point) (detectionPoint : Value)
  | line (points : List Point) (direction : Direction) (detectionPoint : Value)
  | event
  | count (condition : Value)
  | timeout (seconds : Value)
  | speed (turn : Value)
  | merge (inOrder : Value)
  | alarm (bindings : List SensorBinding)
  deriving Inhabited

namespace Payload

def kind : Payload → Kind
  | object .. => .object
  | zone .. => .zone
  | line .. => .line
  | event => .event
  | count _ => .count
  | timeout _ => .timeout
  | speed _ => .speed
  | merge _ => .merge
  | alarm _ => .alarm

/-- The payload of a new node. -/
def new : Kind → Payload
  | .object => object [] []
  | .zone => zone Point.newZone .null
  | .line => line Point.newLine .both .null
  | .event => event
  | .count => count (.text ">=1")
  | .timeout => timeout (.int 5)
  | .speed => speed .null
  | .merge => merge .null
  | .alarm => alarm []

/-- The named fields, in the order of documents. -/
def fields : Payload → Fields
  | object classes classifiers => [("classes", .list classes), ("classifiers", .list classifiers)]
  | zone points detectionPoint =>
    [("points", Point.listToValue points), ("detection_point", detectionPoint)]
  | line points direction detectionPoint =>
    [("points", Point.listToValue points), ("direction", .text direction.name),
     ("detection_point", detectionPoint)]
  | event => []
  | count condition => [("condition", condition)]
  | timeout seconds => [("seconds", seconds)]
  | speed turn => [("turn", turn)]
  | merge inOrder => [("in_order", inOrder)]
  | alarm bindings => [("sensor_bindings", .list (bindings.map fun b => .object b.fields))]

/-- The names of the fields of a kind. -/
def fieldNames (k : Kind) : List String := (new k).fields.map (·.1)

/-- A crossing direction from a value. -/
def directionOfValue (v : Value) : Except Fault Direction :=
  match v.text?.bind Direction.ofName? with
  | some d => .ok d
  | none => .error (.unknownDirection v)

/-- The payload in which every field that `changes` names has the new value. -/
def update (p : Payload) (changes : Fields) : Except Fault Payload := do
  -- An unknown name is refused before any value is looked at.
  match changes.find? fun f => !(p.fields.map (·.1)).contains f.1 with
  | some f => .error (.unknownField f.1)
  | none =>
    let given (name : String) (old : Value) : Value := (changes.get? name).getD old
    match p with
    | object classes classifiers =>
      return object (← (given "classes" (.list classes)).toDistinct)
        (← (given "classifiers" (.list classifiers)).toDistinct)
    | zone points detectionPoint =>
      return zone (← Point.listOfValue (given "points" (Point.listToValue points)))
        (given "detection_point" detectionPoint)
    | line points direction detectionPoint =>
      return line (← Point.listOfValue (given "points" (Point.listToValue points)))
        (← directionOfValue (given "direction" (.text direction.name)))
        (given "detection_point" detectionPoint)
    | event => return event
    | count condition => return count (given "condition" condition)
    | timeout seconds => return timeout (given "seconds" seconds)
    | speed turn => return speed (given "turn" turn)
    | merge inOrder => return merge (given "in_order" inOrder)
    | alarm bindings =>
      let items ← (given "sensor_bindings" (.list (bindings.map fun b => .object b.fields))).toItems
      return alarm (← items.mapM SensorBinding.ofValue)

/-- The payload of a new node with some fields given. -/
def build (k : Kind) (fs : Fields) : Except Fault Payload := (new k).update fs

@[simp] theorem kind_new (k : Kind) : (new k).kind = k := by
  cases k <;> rfl

end Payload

/-- The kind that a value names. -/
def Kind.ofValue (v : Value) : Except Fault Kind :=
  match v.text?.bind Kind.ofName? with
  | some k => .ok k
  | none => .error (.unknownKind v)

end DetectionFlow
