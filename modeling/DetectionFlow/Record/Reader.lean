import DetectionFlow.Record
import DetectionFlow.Schema

/-!
# Reading records

Which values are records. The type field chooses the shape, and for condition records the one
condition that is present does; then every field of the shape is read, and all that is wrong is
reported. Unknown fields are skipped.

`Record.read` reads a raw record. `Record.checkFields` reads the fields of a known shape, which is
also how a node is compiled.
-/

namespace DetectionFlow
namespace Record

/-! ## Fields -/

def coordinate : Reader Double := Reader.doubleBetween Double.zero Double.one

def point : Reader Point := fun v =>
  (Reader.pair coordinate v).map fun (x, y) => ⟨x, y⟩

def target : Reader Target :=
  Reader.lenient fun fs =>
    Target.mk <$> Reader.required fs "label" "label" Reader.name
      <*> Reader.optional fs "classifiers" "classifiers" none
        (Reader.nullable (Reader.list Reader.text))

/-- The type field, if there is one, says what the shape says. Zones admit their older spelling. -/
def typeField (shape : Kind) (fs : Fields) : Checked Unit :=
  let expected := (shape.recordType?.map RecordType.name).getD ""
  Reader.optional fs "eventType" "event_type" () fun v =>
    if shape = .zone ∧ v.text? = some RecordType.olderRoi then .ok ()
    else Reader.literal expected v

def targetField (fs : Fields) : Checked (Option Target) :=
  Reader.optional fs "target" "target" none (Reader.nullable target)

def detectionPointField (fs : Fields) : Checked (Option String) :=
  Reader.optional fs "detectionPoint" "detection_point" none (Reader.nullable Reader.text)

/-- The fields of the body of a shape. Kinds without a record have none. -/
def bodyOf (shape : Kind) (fs : Fields) : Checked Body :=
  match shape with
  | .zone => Body.zone
      <$> Reader.required fs "points" "points" (Reader.listMin 3 point)
      <*> targetField fs <*> detectionPointField fs
  | .line => Body.line
      <$> Reader.required fs "points" "points" (Reader.listOf 2 point)
      <*> Reader.optional fs "direction" "direction" .both (Reader.oneOf Direction.ofName?)
      <*> targetField fs <*> detectionPointField fs
  | .count => Body.count <$> Reader.required fs "ncond" "ncond" Reader.text
  | .timeout => Body.timeout <$> Reader.required fs "timeout" "timeout" Reader.seconds
  | .speed => Body.speed <$> Reader.optional fs "turn" "turn" none (Reader.nullable Reader.int)
  | .merge => Body.merge
      <$> Reader.optional fs "inOrder" "in_order" none (Reader.nullable Reader.bool)
  | .alarm => Body.alarm <$> Reader.optional fs "ext" "ext" "[]" Reader.text
  | .object | .event => .wrong "union_tag_invalid"

/-- The record with the given fields and a known shape. The fields are read in wire order. -/
def checkFields (shape : Kind) (fs : Fields) : Checked Record :=
  (fun id name parent _ body => ⟨id, name, parent, body⟩)
    <$> Reader.required fs "eventSettingId" "event_setting_id" Reader.name
    <*> Reader.optional fs "eventSettingName" "event_setting_name" "" Reader.text
    <*> Reader.optional fs "parentId" "parent_id" none (Reader.nullable Reader.text)
    <*> typeField shape fs
    <*> bodyOf shape fs

/-! ## The choice of the shape -/

/-- The tags that choose a shape, each with the shape. -/
def tags : List (String × Kind) :=
  [("ROI", .zone), ("Line", .line), ("Filter:ncond", .count), ("Filter:timeout", .timeout),
   ("Speed", .speed), ("And", .merge), ("Alarm", .alarm)]

/-- A field that is there and not null. -/
def given (fs : Fields) (name : String) : Bool :=
  match fs.get? name with
  | none | some Value.null => false
  | some _ => true

/-- What chooses the shape of a raw record: its type or, for conditions, the condition that it has.
A condition record must have exactly one. -/
def tagValue (fs : Fields) : Option Value :=
  match (Reader.lookup fs "eventType" "event_type").map (·.2) with
  | none | some Value.null => none
  | some v =>
    if v.text? = some RecordType.olderRoi then some (.text RecordType.roi.name)
    else if v.text? = some RecordType.filter.name then
      match given fs "ncond", given fs "timeout" with
      | true, false => some (.text "Filter:ncond")
      | false, true => some (.text "Filter:timeout")
      | _, _ => none
    else some v

/-- The tag and the shape of a raw record. -/
def shapeOf (fs : Fields) : Checked (String × Kind) :=
  match tagValue fs with
  | none => .wrong "union_tag_not_found"
  | some v => match v.text?.bind fun s => tags.find? (·.1 = s) with
    | some t => .ok t
    | none => .wrong "union_tag_invalid"

/-- Reads a raw record. Violations are seen from its tag. -/
def read : Reader Record
  | .object fs =>
    (shapeOf fs).andThen fun (tag, shape) => (checkFields shape fs).under (.field tag)
  | _ => .wrong "union_tag_not_found"

end Record

/-- Reads the settings that a save call carries. Both fields have defaults. -/
def EventSettings.readFields (fs : Fields) : Checked EventSettings :=
  EventSettings.mk <$> Reader.optional fs "version" "version" schemaVersion Reader.text
    <*> Reader.optional fs "configs" "configs" [] (Reader.list Record.read)

end DetectionFlow
