import DetectionFlow.Json.Reader
import DetectionFlow.Json.Writer
import DetectionFlow.Payload

/-!
# The text of an alarm

An alarm record carries its sensor bindings as one text, a JSON list of objects. `Alarm.encode`
writes it, and `Alarm.decode` reads it back: texts of any scalar are taken as texts, durations and
priorities are numbers or numerals, and one entry that cannot be read makes the whole text
unreadable.
-/

namespace DetectionFlow
namespace Alarm

/-! ## Writing -/

/-- The priority as a field, which appears only if there is one. -/
def priorityField : Value → Fields
  | .null => []
  | v => [("priority", v)]

/-- The fields of the entry of one binding. -/
def entryFields (b : SensorBinding) : Fields :=
  [("id", b.sensorId), ("typeId", b.sensorTypeId), ("alarmType", b.channel),
    ("alarmValue", b.alarmValue), ("duration", b.duration)] ++ priorityField b.priority

/-- The text of a list of bindings. -/
def encode (bindings : List SensorBinding) : Except Fault String :=
  let entries := Value.list ((bindings.map entryFields).map .object)
  match Json.fault? entries with
  | some f => .error f
  | none => .ok (Json.compact entries)

/-! ## Reading -/

/-- Why an entry is no binding, as far as that is reported. -/
inductive BadEntry
  | missing (key : String)
  | fault (f : Fault)

namespace BadEntry

/-- The words for a bad entry. Only keys that are missing and numbers that are none are named. -/
def why : BadEntry → String
  | missing key => ": " ++ Text.quoted key
  | fault (.expectedNumber _) => ": expected a number"
  | fault (.expectedFinite _) => ": expected a finite number"
  | fault _ => ""

/-- The fault of the whole text. A number beyond all doubles is a fault of its own. -/
def toFault : BadEntry → Fault
  | fault .tooLarge => .tooLarge
  | bad => .badBinding bad.why

end BadEntry

/-- The text of a field that must be there. -/
def textField (fs : Fields) (key : String) : Except BadEntry Value :=
  match fs.get? key with
  | some v => .ok (.text v.shown)
  | none => .error (.missing key)

/-- The number in a field. -/
def numberOf (v : Value) : Except BadEntry Number :=
  match v.toFinite with
  | .ok n => .ok n
  | .error f => .error (.fault f)

/-- The priority in a field; null and no field mean none. -/
def priorityOf (v : Option Value) : Except BadEntry Value :=
  match v with
  | none | some Value.null => .ok .null
  | some v => (numberOf v).map fun n => .int n.truncate

/-- The binding of the fields of an entry. -/
def ofFields (fs : Fields) : Except BadEntry SensorBinding := do
  let sensorId ← textField fs "id"
  let sensorTypeId ← textField fs "typeId"
  let channel ← textField fs "alarmType"
  let alarmValue ← textField fs "alarmValue"
  let duration ← numberOf ((fs.get? "duration").getD (.int 0))
  let priority ← priorityOf (fs.get? "priority")
  return ⟨sensorId, sensorTypeId, channel, alarmValue, duration.toValue, priority⟩

/-- The binding of an entry, which must be an object. -/
def ofEntry : Value → Except BadEntry SensorBinding
  | .object fs => ofFields fs
  | v => .error (.fault (.notIterable v.typeName))

/-- The bindings of a list of entries. -/
def ofEntries (items : List Value) : Except Fault (List SensorBinding) :=
  match items.mapM ofEntry with
  | .ok bindings => .ok bindings
  | .error bad => .error bad.toFault

/-- The bindings of a text. The empty text has none. -/
def decode (ext : String) : Except Fault (List SensorBinding) :=
  if ext.isEmpty then .ok []
  else match Json.read ext with
    | .error e => .error e.toFault
    | .ok (.list items) => ofEntries items
    | .ok _ => .error .notBindingList

/-- The bindings of a value that stands where the text should be. -/
def decodeValue : Value → Except Fault (List SensorBinding)
  | .text s => decode s
  | v => if v.isTruthy then .error (.notNumeric v.typeName) else .ok []

/-- The text written again from its bindings. -/
def recode (v : Value) : Except Fault String := do
  encode (← decodeValue v)

end Alarm
end DetectionFlow
