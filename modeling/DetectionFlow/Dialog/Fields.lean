import DetectionFlow.Backend.Answer
import DetectionFlow.Dialog
import DetectionFlow.Typed

/-!
# Asking for payload fields

What an operator is asked about a node of each kind. Every dialog starts from the payload that the
node has and ends with the fields to change, or with nothing when the operator cancels. Events have
no fields and no dialog.

Main function: `Payload.askFields?`.
-/

namespace DetectionFlow
namespace AskFields

/-- The classes of an app, each with its classifiers. -/
abbrev Options := List (String × List String)

/-! ## Objects -/

/-- The classes on offer when no app is known. -/
def commonClasses : List String :=
  ["person", "car", "truck", "bus", "motorcycle", "bicycle", "forklift"]

/-- Texts to tick, some of them ticked already. -/
def ticked (on : List Value) (texts : List String) : List Choice :=
  texts.map fun s => .titled s (.text s) none (on.any fun v => v.text? = some s)

/-- The classifiers of some classes, each once, by code points. -/
def classifiersOf (options : Options) (classes : List Value) : List String :=
  let named := classes.filterMap fun v => v.text?.bind fun s => options.find? (·.1 = s)
  ((named.flatMap (·.2)).eraseDups).mergeSort fun a b => !decide (b < a)

/-- Asks for classes, and for classifiers if these have any. -/
def object (classes classifiers : List Value) (options : Options) : Dialog (Option Fields) := do
  -- Without an app there are no classifiers either.
  let labels := if options.isEmpty then commonClasses else options.map (·.1)
  match ← Dialog.askAny "Detect which classes?" (ticked classes labels) with
  | none => return none
  | some chosen =>
    let available := classifiersOf options chosen
    let picked ←
      if available.isEmpty then pure (some [])
      else Dialog.askAny "Require classifiers (optional):" (ticked classifiers available)
    return picked.map fun p => [("classes", .list chosen), ("classifiers", .list p)]

/-! ## Areas -/

/-- The points of a detection that an area can watch. -/
def detectionPoints : List String :=
  ["leftTop", "centerTop", "rightTop", "leftCenter", "center", "rightCenter", "leftBottom",
   "centerBottom", "rightBottom", "ALL"]

/-- The choices of a detection point. The empty text leaves it to the compositor. -/
def detectionChoices : List Choice :=
  .of "(compositor default)" (.text "") :: detectionPoints.map .ofText

/-- Asks for a detection point. -/
def detectionPoint (current : Value) : Dialog (Option Value) :=
  Dialog.askSelect "Detection point:" detectionChoices
    (if current.isTruthy then current else .text "")

/-- The value of a chosen detection point. -/
def pointChosen (v : Value) : Value := if v.isTruthy then v else .null

/-- The value of typed points. -/
def pointsTyped (s : String) : Dialog Value := do
  return Point.listToValue (← Dialog.ofFault (Typed.points s))

def zone (points : List Point) (current : Value) : Dialog (Option Fields) := do
  Dialog.print (Look.grey.paint "Normalized coordinates, e.g. 0.2,0.2; 0.8,0.2; 0.8,0.8")
  match ← Dialog.askText "Polygon points:" (.text (Typed.pointsText points))
      (Typed.pointsComplaint 3 none) with
  | none => return none
  | some typed =>
    match ← detectionPoint current with
    | none => return none
    | some chosen =>
      return some [("points", ← pointsTyped typed), ("detection_point", pointChosen chosen)]

/-- Asks for the direction in which a line is crossed. -/
def crossing (current : Direction) : Dialog (Option Value) :=
  Dialog.askSelect "Crossing direction:" (Direction.all.map fun d => .ofText d.name)
    (.text current.name)

def line (points : List Point) (direction : Direction) (current : Value) :
    Dialog (Option Fields) := do
  match ← Dialog.askText "Line points (A; B):" (.text (Typed.pointsText points))
      (Typed.pointsComplaint 2 (some 2)) with
  | none => return none
  | some typed =>
    match ← crossing direction with
    | none => return none
    | some way =>
      match ← detectionPoint current with
      | none => return none
      | some chosen =>
        return some [("points", ← pointsTyped typed), ("direction", way),
          ("detection_point", pointChosen chosen)]

/-! ## Conditions -/

def count (condition : Value) : Dialog (Option Fields) := do
  let typed ← Dialog.askText "Count condition (e.g. >=3):" condition Typed.conditionComplaint
  return typed.map fun s => [("condition", .text (Typed.condition s))]

/-- The value of a typed number of seconds. -/
def secondsTyped (s : String) : Dialog Value := do
  return (Number.ofDouble (← Dialog.ofFault (Value.text s).toDouble)).toValue

def timeout (seconds : Value) : Dialog (Option Fields) := do
  let default ← Dialog.ofFault seconds.toBrief
  match ← Dialog.askText "Timeout (seconds):" (.text default) Typed.secondsComplaint with
  | none => return none
  | some s => return some [("seconds", ← secondsTyped s)]

/-- The choice that leaves a turn open. -/
def unset : String := "unset"

def speed (turn : Value) : Dialog (Option Fields) := do
  let chosen ← Dialog.askSelect "Turn:"
    [.of "(unset)" (.text unset), .of "0" (.int 0), .of "1" (.int 1)]
    (match turn with
    | .null => .text unset
    | v => v)
  return chosen.map fun v => [("turn", if v.text? = some unset then .null else v)]

def merge (inOrder : Value) : Dialog (Option Fields) := do
  let answer ← Dialog.askConfirm "Require upstream events in order?" inOrder.isTruthy
  return answer.map fun b => [("in_order", .bool b)]

/-! ## Alarms -/

/-- The channels of a sensor. -/
def channels : List String := ["LED", "BUZZER", "DO"]

/-- Asks for a name that is not blank. -/
def name (message : String) : Dialog (Option String) :=
  Dialog.askText message (.text "") Typed.nameComplaint

/-- A name without the blanks around it, as a value. -/
def nameValue (s : String) : Value := .text (Text.trimText s)

/-- Asks for a sensor binding, one field after the other. -/
def binding : Dialog (Option SensorBinding) := do
  match ← name "Sensor id:" with
  | none => return none
  | some sensor =>
    match ← name "Sensor type id:" with
    | none => return none
    | some sensorType =>
      match ← Dialog.askOne "Channel:" (channels.map .word) with
      | none => return none
      | some channel =>
        match ← name "Value (e.g. RED, 1):" with
        | none => return none
        | some value =>
          match ← Dialog.askText "Duration (seconds):" (.text "0") Typed.secondsComplaint with
          | none => return none
          | some duration =>
            return some ⟨nameValue sensor, nameValue sensorType, .text channel, nameValue value,
              ← secondsTyped duration, .null⟩

/-- One line about a binding. -/
def bindingLine (b : SensorBinding) : Except Fault String := do
  return "  - " ++ b.sensorId.shown ++ " " ++ b.channel.shown ++ "=" ++ b.alarmValue.shown ++
    " (" ++ (← b.duration.toBrief) ++ "s)"

/-- Shows the bindings that there are, and asks whether they stay. -/
def kept (bindings : List SensorBinding) : Dialog (List SensorBinding) := do
  if bindings.isEmpty then return []
  else
    Dialog.print ("Current sensor bindings (" ++ toString bindings.length ++ "):")
    for b in bindings do
      Dialog.print (← Dialog.ofFault (bindingLine b))
    if (← Dialog.askConfirm "Keep them?" true) = some true then return bindings else return []

/-- Asks for further bindings, for so many rounds at most. -/
def added : Nat → List SensorBinding → Dialog (List SensorBinding)
  | 0, bindings => return bindings
  | n + 1, bindings => do
    if (← Dialog.askConfirm "Add a sensor binding?" bindings.isEmpty) = some true then
      match ← binding with
      | some b => added n (bindings ++ [b])
      | none => return bindings
    else return bindings

def alarm (bindings : List SensorBinding) : Dialog (Option Fields) := do
  let bindings ← kept bindings
  let bindings ← added (← Dialog.rounds) bindings
  return some [("sensor_bindings", .list (bindings.map fun b => .object b.fields))]

end AskFields

/-- The dialog about the fields of a payload. Events have none. -/
def Payload.askFields? (options : AskFields.Options) : Payload → Option (Dialog (Option Fields))
  | .object classes classifiers => some (AskFields.object classes classifiers options)
  | .zone points detectionPoint => some (AskFields.zone points detectionPoint)
  | .line points direction detectionPoint => some (AskFields.line points direction detectionPoint)
  | .event => none
  | .count condition => some (AskFields.count condition)
  | .timeout seconds => some (AskFields.timeout seconds)
  | .speed turn => some (AskFields.speed turn)
  | .merge inOrder => some (AskFields.merge inOrder)
  | .alarm bindings => some (AskFields.alarm bindings)

end DetectionFlow
